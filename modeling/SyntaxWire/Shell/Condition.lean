/-
The conditions of `test`. They are read with one word in view, the last that
was used; what a word is depends on the words behind it.
-/
import SyntaxWire.Shell.Machine

namespace SyntaxWire.Shell.Condition

inductive Role where
  /-- In front of one word. -/
  | unary
  /-- Between two words. -/
  | binary
  /-- Between two conditions. -/
  | connective
  | negation
  | parenthesis
deriving DecidableEq, Repr

def unaries : List String :=
  ["-r", "-w", "-x", "-e", "-f", "-d", "-c", "-b", "-p", "-u", "-g", "-k", "-s", "-t", "-z", "-n", "-h",
    "-O", "-G", "-L", "-S"]

def binaries : List String :=
  ["=", "!=", "<", ">", "-eq", "-ne", "-ge", "-gt", "-le", "-lt", "-nt", "-ot", "-ef"]

def role? (word : String) : Option Role :=
  if word ∈ unaries then some .unary
  else if word ∈ binaries then some .binary
  else if word = "-a" ∨ word = "-o" then some .connective
  else if word = "!" then some .negation
  else if word = "(" ∨ word = ")" then some .parenthesis
  else none

/-- What the first word is, if it is more than an operand. -/
def operator? (words : List String) : Option Role :=
  match words with
  | [] => none
  | word :: rest =>
    match role? word, rest with
    | some .unary, [] => none
    | some .unary, _ :: [] => some .unary
    | some .unary, next :: _ => if role? next = some .binary then none else some .unary
    | some .parenthesis, [] => if word = "(" then none else some .parenthesis
    | role, _ => role

variable {m : Type → Type} [Monad m]

def complaint {α : Type} (word message : String) : Act m α := Act.fault (word ++ ": " ++ message)

def integer (word : String) : Act m Int := do
  match Raw.wholeInteger? 10 word with
  | some n => return n
  | none => Act.fault ("Illegal number: " ++ word)

def unary (op word : String) : Act m Bool := do
  match op with
  | "-z" => return word.isEmpty
  | "-n" => return !word.isEmpty
  | "-t" =>
    discard (integer (m := m) word)
    return false
  | op =>
    match ← Act.kind word with
    | .error _ => return false
    | .ok kind =>
      match op with
      | "-f" => return kind = .file
      | "-d" => return kind = .directory
      | "-c" => return kind = .device
      | "-x" => return kind = .directory
      | "-s" =>
        match ← Act.contents (m := m) word with
        | .ok s => return !s.isEmpty
        | .error _ => return true
      | op => return op ∉ ["-b", "-p", "-u", "-g", "-k", "-h", "-L", "-S"]

def binary (a op b : String) : Act m Bool := do
  let compare (f : Int → Int → Bool) : Act m Bool := do
    let a ← integer a
    return f a (← integer b)
  match op with
  | "=" => return a = b
  | "!=" => return a ≠ b
  | "<" => return a < b
  | ">" => return b < a
  | "-eq" => compare (fun a b => a = b)
  | "-ne" => compare (fun a b => a ≠ b)
  | "-ge" => compare (fun a b => a ≥ b)
  | "-gt" => compare (fun a b => a > b)
  | "-le" => compare (fun a b => a ≤ b)
  | "-lt" => compare (fun a b => a < b)
  | op =>
    let there := (← Act.kind a).isOk && (← Act.kind b).isOk
    let p ← Act.self
    return op = "-ef" && there && p.wayTo a = p.wayTo b

/-- A condition and what is in view behind it. -/
abbrev Verdict := Bool × List String

/-- The condition at the front, in which `whole` reads one that stands in parentheses. -/
def primary (whole : List String → Act m Verdict) (words : List String) : Act m Verdict := do
  match words, operator? words with
  | [], _ => return (false, [])
  | "(" :: rest, some .parenthesis =>
    if rest.head? = some ")" then return (false, rest)
    let (b, view) ← whole rest
    match view.tail with
    | ")" :: after => return (b, ")" :: after)
    | _ => Act.fault "closing paren expected"
  | op :: rest, some .unary =>
    match rest with
    | [] => complaint op "argument expected"
    | word :: _ => return (← unary op word, rest)
  | word :: rest, _ =>
    match rest, operator? rest with
    | op :: rest, some .binary =>
      match rest with
      | [] => complaint op "argument expected"
      | b :: _ => return (← binary word op b, rest)
    | _, _ => return (!word.isEmpty, words)

def negation (whole : List String → Act m Verdict) : List String → Act m Verdict
  | ["!"] => return (true, ["!"])
  | "!" :: rest => do
    let (b, view) ← negation whole rest
    return (!b, view)
  | words => primary whole words

def conjunction (whole : List String → Act m Verdict) : Nat → List String → Act m Verdict
  | 0, words => return (false, words)
  | n + 1, words => do
    let (b, view) ← negation whole words
    match view.tail with
    | "-a" :: rest =>
      let (c, view) ← conjunction whole n rest
      return (b && c, view)
    | _ => return (b, view)

def disjunction (whole : List String → Act m Verdict) : Nat → List String → Act m Verdict
  | 0, words => return (false, words)
  | n + 1, words => do
    let (b, view) ← conjunction whole (words.length + 1) words
    match view.tail with
    | "-o" :: rest =>
      let (c, view) ← disjunction whole n rest
      return (b || c, view)
    | _ => return (b, view)

def whole : Nat → List String → Act m Verdict
  | 0, words => return (false, words)
  | n + 1, words => disjunction (whole n) (words.length + 1) words

/-- The outcome of `test`, given the words behind it. -/
def test (words : List String) : Act m Bool := do
  let n := words.length + 1
  let (b, view) ← match words with
    | [] => pure (false, [])
    | [a, op, b] =>
      if role? op = some .binary then do pure (← binary a op b, [b])
      else if a = "(" ∧ b = ")" then whole n [op]
      else whole n words
    | ["(", a, b, ")"] => whole n [a, b]
    | words => whole n words
  match view with
  | word :: _ :: _ => complaint word "unexpected operator"
  | _ => return b

end SyntaxWire.Shell.Condition
