/-
JSON values as they are written: compact without any blanks, or pretty with
two blanks a level. Text is written in front of what follows it, so writing
is linear in its length.
-/
import SyntaxWire.Bytes

namespace SyntaxWire.Json

inductive Value where
  | null
  | integer (n : Int)
  | string (s : String)
  | array (items : List Value)
  | object (members : List (String × Value))

/-- A character inside a string. Only quotes, backslashes and controls are escaped. -/
def escapeChar (c : Char) : List Char :=
  if c = '"' then ['\\', '"']
  else if c = '\\' then ['\\', '\\']
  else if c = '\x08' then ['\\', 'b']
  else if c = '\x0c' then ['\\', 'f']
  else if c = '\n' then ['\\', 'n']
  else if c = '\r' then ['\\', 'r']
  else if c = '\t' then ['\\', 't']
  else if c.toNat < 0x20 then
    ['\\', 'u', '0', '0', Bytes.hexDigit (c.toNat / 16), Bytes.hexDigit (c.toNat % 16)]
  else [c]

def writeString (s : String) (rest : List Char) : List Char :=
  '"' :: (s.toList.flatMap escapeChar ++ '"' :: rest)

namespace Value

mutual

def writeCompact : Value → List Char → List Char
  | null, rest => 'n' :: 'u' :: 'l' :: 'l' :: rest
  | integer n, rest => (toString n).toList ++ rest
  | string s, rest => writeString s rest
  | array vs, rest => '[' :: writeItems vs (']' :: rest)
  | object ms, rest => '\x7b' :: writeMembers ms ('\x7d' :: rest)

def writeItems : List Value → List Char → List Char
  | [], rest => rest
  | [v], rest => writeCompact v rest
  | v :: vs, rest => writeCompact v (',' :: writeItems vs rest)

def writeMembers : List (String × Value) → List Char → List Char
  | [], rest => rest
  | [(k, v)], rest => writeString k (':' :: writeCompact v rest)
  | (k, v) :: ms, rest => writeString k (':' :: writeCompact v (',' :: writeMembers ms rest))

end

/-- A new line at the given level. -/
def lineBreak (level : Nat) (rest : List Char) : List Char :=
  '\n' :: (List.replicate (2 * level) ' ' ++ rest)

mutual

def writePretty (level : Nat) : Value → List Char → List Char
  | null, rest => 'n' :: 'u' :: 'l' :: 'l' :: rest
  | integer n, rest => (toString n).toList ++ rest
  | string s, rest => writeString s rest
  | array [], rest => '[' :: ']' :: rest
  | array (v :: vs), rest => '[' :: writePrettyItems (level + 1) (v :: vs) (lineBreak level (']' :: rest))
  | object [], rest => '\x7b' :: '\x7d' :: rest
  | object (m :: ms), rest =>
    '\x7b' :: writePrettyMembers (level + 1) (m :: ms) (lineBreak level ('\x7d' :: rest))

def writePrettyItems (level : Nat) : List Value → List Char → List Char
  | [], rest => rest
  | [v], rest => lineBreak level (writePretty level v rest)
  | v :: vs, rest => lineBreak level (writePretty level v (',' :: writePrettyItems level vs rest))

def writePrettyMembers (level : Nat) : List (String × Value) → List Char → List Char
  | [], rest => rest
  | [(k, v)], rest => lineBreak level (writeString k (':' :: ' ' :: writePretty level v rest))
  | (k, v) :: ms, rest =>
    lineBreak level (writeString k (':' :: ' ' :: writePretty level v (',' :: writePrettyMembers level ms rest)))

end

def compact (v : Value) : String := String.ofList (v.writeCompact [])

def pretty (v : Value) : String := String.ofList (v.writePretty 0 [])

def natural (n : Nat) : Value := integer n

def optional (f : α → Value) : Option α → Value
  | none => null
  | some a => f a

end Value

end SyntaxWire.Json
