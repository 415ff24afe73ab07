/-
Reading JSON text as values of given types.

A reader takes the number of arrays and objects that may still be opened
inside one another, and the text. It skips the blanks in front of its value
and reads no further than the value's end. Whatever is wrong first, reading
from the left, is the fault it reports.
-/
import SyntaxWire.Json.Scan

namespace SyntaxWire.Json

abbrev Reader (α : Type) := (levels : Nat) → List Char → Except Fault (α × List Char)

/-- Arrays and objects may be opened this many deep. -/
def maxLevels : Nat := 127

def wrongType (found : Found) (expected : String) : Fault := .shape (.wrongType found expected)

/-- The fault of a value that is not of the expected type. Numbers, words and strings are read first. -/
def mismatch (expected : String) (s : List Char) : Fault :=
  match s with
  | 'n' :: s => fault .null (readNull s)
  | 't' :: s => fault (.bool true) (readTrue s)
  | 'f' :: s => fault (.bool false) (readFalse s)
  | '"' :: s => match readString s with
    | .ok (text, _) => wrongType (.string text) expected
    | .error f => f
  | '[' :: _ => wrongType .sequence expected
  | '\x7b' :: _ => wrongType .map expected
  | '-' :: s => number (readNumber true s)
  | c :: s => if isDigit c then number (readNumber false (c :: s)) else .expectedValue
  | [] => .endOfValue
where
  fault (found : Found) : Except Fault (List Char) → Fault
    | .ok _ => wrongType found expected
    | .error f => f
  number : Except Fault (Number × List Char) → Fault
    | .ok (.integer n, _) => wrongType (.integer n) expected
    | .ok (.float bits, _) => wrongType (.float bits) expected
    | .error f => f

def string : Reader String := fun _ s =>
  match skipBlanks s with
  | '"' :: s => readString s
  | s => .error (mismatch "a string" s)

/-- An integer from `low` to `high`. -/
def integer (low high : Int) (expected : String) : Reader Int := fun _ s =>
  let check : Number × List Char → Except Fault (Int × List Char)
    | (.integer n, s) =>
      if low ≤ n ∧ n ≤ high then .ok (n, s) else .error (.shape (.wrongInteger n expected))
    | (.float bits, _) => .error (wrongType (.float bits) expected)
  match skipBlanks s with
  | '-' :: s => readNumber true s >>= check
  | c :: s => if isDigit c then readNumber false (c :: s) >>= check else .error (mismatch expected (c :: s))
  | [] => .error .endOfValue

/-- A number below `bound`. -/
def natural (bound : Nat) (expected : String) : Reader Nat := fun levels s => do
  let (n, s) ← integer 0 (bound - 1) expected levels s
  .ok (n.toNat, s)

def uint16 : Reader UInt16 := fun levels s => do
  let (n, s) ← natural UInt16.size "u16" levels s
  .ok (n.toUInt16, s)

def uint32 : Reader UInt32 := fun levels s => do
  let (n, s) ← natural UInt32.size "u32" levels s
  .ok (n.toUInt32, s)

def uint64 (expected : String) : Reader UInt64 := fun levels s => do
  let (n, s) ← natural UInt64.size expected levels s
  .ok (n.toUInt64, s)

def int32 : Reader Int32 := fun levels s => do
  let (n, s) ← integer (-0x80000000) 0x7fffffff "i32" levels s
  .ok (Int32.ofInt n, s)

/-- A value or `null`. -/
def nullable {α : Type} (value : Reader α) : Reader (Option α) := fun levels s =>
  match skipBlanks s with
  | 'n' :: s => do
    let s ← readNull s
    .ok (none, s)
  | s => do
    let (a, s) ← value levels s
    .ok (some a, s)

/-- Whether another item follows in an array; if so, the text from it on. -/
def nextItem (first : Bool) (s : List Char) : Except Fault (Option (List Char)) :=
  match skipBlanks s with
  | [] => .error .endOfList
  | ']' :: _ => .ok none
  | c :: s =>
    if first then .ok (some (c :: s))
    else if c = ',' then
      match skipBlanks s with
      | [] => .error .endOfValue
      | ']' :: _ => .error .trailingComma
      | s => .ok (some s)
    else .error .expectedListComma

/-- The end of an array of which no more items are wanted. -/
def closeList (s : List Char) : Except Fault (List Char) :=
  match skipBlanks s with
  | [] => .error .endOfList
  | ']' :: s => .ok s
  | ',' :: s =>
    match skipBlanks s with
    | ']' :: _ => .error .trailingComma
    | _ => .error .trailingCharacters
  | _ :: _ => .error .trailingCharacters

/-- The items of an array after its bracket, up to and with the closing one; each item reads a character or more. -/
def items {α : Type} (item : List Char → Except Fault (α × List Char)) :
    (fuel : Nat) → (done : List α) → List Char → Except Fault (List α × List Char)
  | 0, _, _ => .error .endOfList
  | fuel + 1, done, s => do
    match ← nextItem done.isEmpty s with
    | none =>
      let s ← closeList s
      .ok (done.reverse, s)
    | some s =>
      let (a, s) ← item s
      items item fuel (a :: done) s

/-- Enters an array or an object if one more level is allowed. -/
def enter {α : Type} (levels : Nat) (body : (levels : Nat) → Except Fault α) : Except Fault α :=
  match levels with
  | 0 => .error .tooDeep
  | levels + 1 => body levels

def list {α : Type} (item : Reader α) : Reader (List α) := fun levels s =>
  match skipBlanks s with
  | '[' :: s => enter levels fun levels => items (item levels) (s.length + 1) [] s
  | s => .error (mismatch "a sequence" s)

/-- The next key of an object, if there is one, with the text after it. -/
def nextKey (first : Bool) (s : List Char) : Except Fault (Option String × List Char) :=
  let key (s : List Char) : Except Fault (Option String × List Char) := do
    let (k, s) ← readString s
    .ok (some k, s)
  match skipBlanks s with
  | [] => .error .endOfObject
  | '\x7d' :: s => .ok (none, s)
  | c :: s =>
    if first then
      if c = '"' then key s else .error .keyNotString
    else if c = ',' then
      match skipBlanks s with
      | [] => .error .endOfValue
      | '"' :: s => key s
      | '\x7d' :: _ => .error .trailingComma
      | _ :: _ => .error .keyNotString
    else .error .expectedObjectComma

/-- The members of an object after its brace, up to and with the closing one, folded into a state. -/
def members {σ : Type} (member : String → σ → List Char → Except Fault (σ × List Char)) :
    (fuel : Nat) → (first : Bool) → σ → List Char → Except Fault (σ × List Char)
  | 0, _, _, _ => .error .endOfObject
  | fuel + 1, first, state, s => do
    match ← nextKey first s with
    | (none, s) => .ok (state, s)
    | (some key, s) =>
      let (state, s) ← member key state s
      members member fuel false state s

/-- A value and nothing after it but blanks. -/
def readAll {α : Type} (value : Reader α) (text : String) : Except Fault α := do
  let (a, s) ← value maxLevels text.toList
  if (skipBlanks s).isEmpty then .ok a else .error .trailingCharacters

end SyntaxWire.Json
