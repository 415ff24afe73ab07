/-
Text as the shell knows it: bytes. Inside the shell a string has one character
for each byte, the one with the number of the byte, so that a script reads as
text and yet any bytes can pass through it.

Also here: numbers at the front of such text.
-/
import SyntaxWire.Text.Utf8

namespace SyntaxWire.Shell.Raw

def ofBytes (s : Bytes) : String := String.ofList (s.map fun b => Char.ofNat b.toNat)

def toBytes (s : String) : Bytes := s.toList.map fun c => UInt8.ofNat c.toNat

def ofText (s : String) : String := ofBytes (Bytes.ofText s)

def toText (s : String) : String := Text.Utf8.lossyText (toBytes s)

/-- The value of a character as a digit, of the letters in either case. -/
def digit? (base : Nat) (c : Char) : Option Nat :=
  let value :=
    if '0' ≤ c ∧ c ≤ '9' then c.toNat - '0'.toNat
    else if 'a' ≤ c ∧ c ≤ 'z' then c.toNat - 'a'.toNat + 10
    else if 'A' ≤ c ∧ c ≤ 'Z' then c.toNat - 'A'.toNat + 10
    else base
  if value < base then some value else none

/-- Puts up to `most` digits behind those that make up `value`; gives what follows them as well. -/
def digits (base : Nat) : (most : Nat) → (value : Nat) → List Char → Nat × List Char
  | _, value, [] => (value, [])
  | 0, value, cs => (value, cs)
  | most + 1, value, c :: cs =>
    match digit? base c with
    | some d => digits base most (base * value + d) cs
    | none => (value, c :: cs)

def isSpace (c : Char) : Bool := c = ' ' || ('\t' ≤ c && c ≤ '\r')

/--
A number without sign. Base 0 lets the digits tell: those after `0x` count by
sixteen, those after `0b` by two, those after `0` by eight.
-/
def natural? (base : Nat) (cs : List Char) : Option (Nat × List Char) :=
  let all (base : Nat) (cs : List Char) := digits base cs.length 0 cs
  let starts (base : Nat) (cs : List Char) : Bool := (cs.head?.bind (digit? base)).isSome
  match base, cs with
  | 0, '0' :: x :: rest =>
    if (x = 'x' ∨ x = 'X') ∧ starts 16 rest then some (all 16 rest)
    else if (x = 'b' ∨ x = 'B') ∧ starts 2 rest then some (all 2 rest)
    else some (all 8 (x :: rest))
  | 0, cs => if starts 10 cs then some (all 10 cs) else none
  | base, cs => if starts base cs then some (all base cs) else none

/-- A number with blanks and a sign in front of it, and what follows it. -/
def integer? (base : Nat) (cs : List Char) : Option (Int × List Char) :=
  match cs.dropWhile isSpace with
  | '-' :: rest => (natural? base rest).map fun (n, rest) => (-n, rest)
  | '+' :: rest => (natural? base rest).map fun (n, rest) => (n, rest)
  | rest => (natural? base rest).map fun (n, rest) => (n, rest)

def least : Int := -9223372036854775808

def greatest : Int := 9223372036854775807

/-- The nearest number that fits in 64 bits. -/
def clamp (n : Int) : Int := max least (min greatest n)

/-- The number that is the same in 64 bits. -/
def wrap (n : Int) : Int := (Int64.ofInt n).toInt

/-- A whole text as a number; blanks may stand around it. -/
def wholeInteger? (base : Nat) (s : String) : Option Int :=
  match integer? base s.toList with
  | some (n, rest) => if rest.all isSpace then some (clamp n) else none
  | none => none

/-- A number that counts something: digits and nothing else. -/
def count? (s : String) : Option Nat :=
  match natural? 10 s.toList with
  | some (n, []) => some n
  | _ => none

/-- The part of a text in front of the first of its characters that fulfils the condition, and the rest. -/
def cut (p : Char → Bool) (s : String) : String × String :=
  (String.ofList (s.toList.takeWhile fun c => ! p c), String.ofList (s.toList.dropWhile fun c => ! p c))

def isNameStart (c : Char) : Bool := c.isAlpha || c = '_'

def isNameChar (c : Char) : Bool := c.isAlphanum || c = '_'

/-- Whether a variable can have the name. -/
def isName (s : String) : Bool :=
  match s.toList with
  | [] => false
  | c :: cs => isNameStart c && cs.all isNameChar

/-- The lines of a text, each with its end if it has one. -/
def lines (s : String) : List String :=
  let pieces := s.splitOn "\n"
  (pieces.dropLast.map (· ++ "\n")) ++ (pieces.getLast?.filter (· ≠ "")).toList

/-- A line without its end. -/
def withoutEnd (line : String) : String :=
  if line.endsWith "\n" then String.ofList line.toList.dropLast else line

end SyntaxWire.Shell.Raw
