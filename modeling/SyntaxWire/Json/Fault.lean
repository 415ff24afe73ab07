/-
What is wrong with a JSON text.

A text can end too early, break the grammar, or be of the wrong shape for
what it is read as. The first fault from left to right is the one reported.
A report goes on with the line and the column where it was found; messages
here are given up to there.
-/
import SyntaxWire.Text.Quoted
import SyntaxWire.Text.Shortest

namespace SyntaxWire.Json

/-- What stands where something else was expected. -/
inductive Found where
  | null
  | bool (b : Bool)
  | integer (n : Int)
  /-- A number that is no integer or too large for one, by its binary64 bits. -/
  | float (bits : UInt64)
  | string (s : String)
  | sequence
  | map
  /-- The bare name of a variant that holds a value. -/
  | unitVariant
deriving DecidableEq, Repr

inductive ShapeFault where
  | wrongType (found : Found) (expected : String)
  | wrongInteger (n : Int) (expected : String)
  | wrongLength (length : Nat) (expected : String)
  | unknownVariant (name : String) (known : List String)
  | missingField (name : String)
  | duplicateField (name : String)
  /-- A payload that is neither text nor bytes. -/
  | noVariant
  /-- The value has the right shape and breaks a rule of its own. -/
  | invalid (message : String)
deriving DecidableEq, Repr

inductive Fault where
  | endOfValue
  | endOfList
  | endOfObject
  | endOfString
  | expectedValue
  | expectedIdent
  | expectedColon
  | expectedListComma
  | expectedObjectComma
  | keyNotString
  | trailingComma
  | trailingCharacters
  | invalidEscape
  | invalidNumber
  | numberOutOfRange
  | controlCharacter
  | loneSurrogate
  | endOfHexEscape
  | tooDeep
  | shape (f : ShapeFault)
deriving DecidableEq, Repr

/-- The three ways in which a text fails. -/
inductive FaultClass where
  | endOfText
  | grammar
  | data
deriving DecidableEq, Repr

def Fault.kind : Fault → FaultClass
  | .endOfValue | .endOfList | .endOfObject | .endOfString => .endOfText
  | .shape _ => .data
  | _ => .grammar

/-- Integers show at exponents up to 15 and small fractions down to -5. -/
def numberStyle : Text.Shortest.Style := { least := -5, greatest := 15, plus := "+" }

def Found.describe : Found → String
  | .null => "null"
  | .bool b => s!"boolean `{b}`"
  | .integer n => s!"integer `{n}`"
  | .float bits =>
    let text := Text.Shortest.render numberStyle bits
    s!"floating point `{text}`"
  | .string s => "string " ++ Text.quoted s
  | .sequence => "sequence"
  | .map => "map"
  | .unitVariant => "unit variant"

/-- A choice of names in backquotes. -/
def oneOf (names : List String) : String :=
  let ticked := names.map fun n => s!"`{n}`"
  match ticked with
  | [a] => a
  | [a, b] => s!"{a} or {b}"
  | _ => "one of " ++ ", ".intercalate ticked

/-- What the report of the fault starts with. -/
def ShapeFault.message : ShapeFault → String
  | .wrongType found expected => s!"invalid type: {found.describe}, expected {expected}"
  | .wrongInteger n expected => s!"invalid value: integer `{n}`, expected {expected}"
  | .wrongLength n expected => s!"invalid length {n}, expected {expected}"
  | .unknownVariant name known => s!"unknown variant `{name}`, expected " ++ oneOf known
  | .missingField name => s!"missing field `{name}`"
  | .duplicateField name => s!"duplicate field `{name}`"
  | .noVariant => "data did not match any variant of untagged enum Repr"
  | .invalid message => message

/-- What the report of the fault starts with. Its place in the text is not part of it. -/
def Fault.message : Fault → String
  | .endOfValue => "EOF while parsing a value"
  | .endOfList => "EOF while parsing a list"
  | .endOfObject => "EOF while parsing an object"
  | .endOfString => "EOF while parsing a string"
  | .expectedValue => "expected value"
  | .expectedIdent => "expected ident"
  | .expectedColon => "expected `:`"
  | .expectedListComma => "expected `,` or `]`"
  | .expectedObjectComma => "expected `,` or `\x7d`"
  | .keyNotString => "key must be a string"
  | .trailingComma => "trailing comma"
  | .trailingCharacters => "trailing characters"
  | .invalidEscape => "invalid escape"
  | .invalidNumber => "invalid number"
  | .numberOutOfRange => "number out of range"
  | .controlCharacter => "control character (\\u0000-\\u001F) found while parsing a string"
  | .loneSurrogate => "lone leading surrogate in hex escape"
  | .endOfHexEscape => "unexpected end of hex escape"
  | .tooDeep => "recursion limit exceeded"
  | .shape f => f.message

end SyntaxWire.Json
