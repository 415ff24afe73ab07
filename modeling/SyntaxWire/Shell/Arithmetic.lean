/-
Arithmetic on integers of 64 bits, in the operators that `$((…))` knows.

An operand that its operator does not need is read but not computed: it gives
no variable a value, and dividing by zero in it does no harm.
-/
import SyntaxWire.Shell.Raw

namespace SyntaxWire.Shell.Arithmetic

inductive Token where
  | number (n : Int)
  | variable (name : String)
  | sign (s : String)
  | bad
deriving DecidableEq, Repr

/-- The signs, longer ones before those that they begin with. -/
def signs : List String :=
  ["<<=", ">>=", "<<", ">>", "<=", ">=", "==", "!=", "&&", "||", "*=", "/=", "%=", "+=", "-=", "&=", "^=",
    "|=", "+", "-", "*", "/", "%", "<", ">", "=", "!", "~", "&", "^", "|", "?", ":", "(", ")"]

def tokensWithin : Nat → List Char → List Token
  | 0, _ | _, [] => []
  | n + 1, c :: cs =>
    if c ∈ [' ', '\t', '\n'] then tokensWithin n cs
    else if c.isDigit then
      match Raw.natural? 0 (c :: cs) with
      | some (value, rest) => .number (Raw.clamp value) :: tokensWithin n rest
      | none => [.bad]
    else if Raw.isNameStart c then
      let name := (c :: cs).takeWhile Raw.isNameChar
      .variable (String.ofList name) :: tokensWithin n ((c :: cs).drop name.length)
    else
      match signs.find? fun s => s.toList.isPrefixOf (c :: cs) with
      | some s => .sign s :: tokensWithin n ((c :: cs).drop s.length)
      | none => [.bad]

def tokens (text : String) : List Token := tokensWithin (text.length + 1) text.toList

inductive Fault where
  | expectingPrimary
  | expecting (what : String)
  | divisionByZero
  /-- The value of a variable is no number. -/
  | illegalNumber (value : String)
deriving DecidableEq, Repr

/-- The message about a fault in the expression. -/
def Fault.message (text : String) : Fault → String
  | expectingPrimary => s!"arithmetic expression: expecting primary: \"{text}\""
  | expecting what => s!"arithmetic expression: expecting {what}: \"{text}\""
  | divisionByZero => s!"arithmetic expression: division by zero: \"{text}\""
  | illegalNumber value => s!"Illegal number: {value}"

/-- The tokens left and the values of the variables, the latest first. -/
structure State where
  rest : List Token
  values : List (String × String)
  changed : List (String × Int) := []

abbrev Eval := StateT State (Except Fault)

def next : Eval Token := fun s =>
  match s.rest with
  | [] => .ok (.bad, s)
  | t :: rest => .ok (t, { s with rest })

def peekSign? : Eval (Option String) := fun s =>
  match s.rest with
  | .sign t :: _ => .ok (some t, s)
  | _ => .ok (none, s)

def value (name : String) : Eval Int := fun s =>
  match s.changed.lookup name, s.values.lookup name with
  | some n, _ => .ok (n, s)
  | none, none | none, some "" => .ok (0, s)
  | none, some text =>
    match Raw.wholeInteger? 0 text with
    | some n => .ok (n, s)
    | none => .error (.illegalNumber text)

/-- How strongly the operators between two operands bind. -/
def strength : List (String × Nat) :=
  [("*", 10), ("/", 10), ("%", 10), ("+", 9), ("-", 9), ("<<", 8), (">>", 8), ("<", 7), ("<=", 7), (">", 7),
    (">=", 7), ("==", 6), ("!=", 6), ("&", 5), ("^", 4), ("|", 3)]

def truth (b : Bool) : Int := if b then 1 else 0

def words (f : Int64 → Int64 → Int64) (a b : Int) : Int := (f (Int64.ofInt a) (Int64.ofInt b)).toInt

/-- What an operator makes of its operands. -/
def apply (sign : String) (a b : Int) : Except Fault Int :=
  match sign with
  | "*" => .ok (Raw.wrap (a * b))
  | "+" => .ok (Raw.wrap (a + b))
  | "-" => .ok (Raw.wrap (a - b))
  | "/" => if b = 0 then .error .divisionByZero else .ok (Raw.wrap (a.tdiv b))
  | "%" => if b = 0 then .error .divisionByZero else .ok (a.tmod b)
  | "<<" => .ok (words (· <<< ·) a b)
  | ">>" => .ok (words (· >>> ·) a b)
  | "<" => .ok (truth (a < b))
  | "<=" => .ok (truth (a ≤ b))
  | ">" => .ok (truth (a > b))
  | ">=" => .ok (truth (a ≥ b))
  | "==" => .ok (truth (a = b))
  | "!=" => .ok (truth (a ≠ b))
  | "&" => .ok (words (· &&& ·) a b)
  | "^" => .ok (words (· ^^^ ·) a b)
  | "|" => .ok (words (· ||| ·) a b)
  | _ => .ok b

/-- The operator inside an assignment such as `+=`. -/
def assigned? (sign : String) : Option String :=
  if sign ∈ ["=", "*=", "/=", "%=", "+=", "-=", "<<=", ">>=", "&=", "^=", "|="] then
    some (String.ofList sign.toList.dropLast)
  else none

/-- Reads expressions. `computes` says whether their value is needed. -/
structure Reader where
  assignment : (computes : Bool) → Eval Int
  unary : (computes : Bool) → Eval Int

variable (r : Reader)

def primary (computes : Bool) : Eval Int := do
  match ← next with
  | .number n => return n
  | .variable name => if computes then value name else return 0
  | .sign "(" =>
    let n ← r.assignment computes
    match ← next with
    | .sign ")" => return n
    | _ => throw (.expecting "')'")
  | .sign "-" => return Raw.wrap (-(← r.unary computes))
  | .sign "+" => r.unary computes
  | .sign "!" => return truth ((← r.unary computes) = 0)
  | .sign "~" => return -(← r.unary computes) - 1
  | _ => throw .expectingPrimary

/-- Goes on behind the operand `a` with operators that bind at least this strongly. -/
def operators (computes : Bool) (least : Nat) (a : Int) : Nat → Eval Int
  | 0 => return a
  | n + 1 => do
    match (← peekSign?).bind fun s => (strength.lookup s).map (s, ·) with
    | some (sign, k) =>
      if k < least then return a
      discard next
      let b ← primary r computes
      let b ← operators computes (k + 1) b n
      let a ← if computes then liftM (apply sign a b) else pure a
      operators computes least a n
    | none => return a

def binary (computes : Bool) : Eval Int := do
  operators r computes 0 (← primary r computes) ((← get).rest.length + 1)

def conjunction (computes : Bool) : Nat → Eval Int
  | 0 => return 0
  | n + 1 => do
    let a ← binary r computes
    if (← peekSign?) ≠ some "&&" then return a
    discard next
    let b ← conjunction (computes && a ≠ 0) n
    return truth (a ≠ 0 && b ≠ 0)

def disjunction (computes : Bool) : Nat → Eval Int
  | 0 => return 0
  | n + 1 => do
    let a ← conjunction r computes ((← get).rest.length + 1)
    if (← peekSign?) ≠ some "||" then return a
    discard next
    let b ← disjunction (computes && a = 0) n
    return truth (a ≠ 0 || b ≠ 0)

def conditional (computes : Bool) : Nat → Eval Int
  | 0 => return 0
  | n + 1 => do
    let a ← disjunction r computes ((← get).rest.length + 1)
    if (← peekSign?) ≠ some "?" then return a
    discard next
    let yes ← r.assignment (computes && a ≠ 0)
    match ← next with
    | .sign ":" =>
      let no ← conditional (computes && a = 0) n
      return if a ≠ 0 then yes else no
    | _ => throw (.expecting "':'")

def assignment (computes : Bool) : Eval Int := do
  let s ← get
  match s.rest with
  | .variable name :: .sign sign :: rest =>
    match assigned? sign with
    | none => conditional r computes (s.rest.length + 1)
    | some inner =>
      set { s with rest }
      let b ← r.assignment computes
      if ¬ computes then return b
      let n ← if inner = "" then pure b else do liftM (apply inner (← value name) b)
      modify fun s => { s with changed := (name, n) :: s.changed }
      return n
  | rest => conditional r computes (rest.length + 1)

/-- Reads expressions that stand no deeper than the number says. -/
def Reader.upTo : Nat → Reader
  | 0 => ⟨fun _ => throw .expectingPrimary, fun _ => throw .expectingPrimary⟩
  | n + 1 =>
    let r := upTo n
    ⟨Arithmetic.assignment r, primary r⟩

/-- The value of an expression, and the variables that it gives values to, the latest first. -/
def evaluate (values : List (String × String)) (text : String) : Except Fault (Int × List (String × Int)) := do
  let ts := tokens text
  let (n, s) ← (Reader.upTo (ts.length + 1)).assignment true { rest := ts, values }
  if s.rest.isEmpty then return (n, s.changed) else throw (.expecting "EOF")

end SyntaxWire.Shell.Arithmetic
