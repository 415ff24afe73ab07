/-
Shell scripts as data. A word is a list of parts, since most of what stands
in it is only known when it is expanded; a command is a tree of the commands
that it is made of.
-/
import SyntaxWire.Shell.Raw

namespace SyntaxWire.Shell

/-- What is done with the value of a parameter. -/
inductive Change where
  | plain
  | length
  /-- Another value for one that is missing; `null` says that an empty one counts as missing. -/
  | default (null : Bool)
  | assign (null : Bool)
  | require (null : Bool)
  /-- Another value for one that is there. -/
  | instead (null : Bool)
  /-- Without what a pattern matches at the front or at the end. -/
  | cutFront (longest : Bool)
  | cutEnd (longest : Bool)
  /-- Nothing that has a meaning. -/
  | bad
deriving DecidableEq, Repr

/-- How a redirection opens a file. -/
inductive Access where
  | read
  | write
  /-- Writes even over a file that is guarded against it. -/
  | overwrite
  | append
  | both
deriving DecidableEq, Repr

mutual

inductive Part where
  | char (c : Char)
  /-- A quoted character, which stands only for itself. -/
  | kept (c : Char)
  /-- The place of a quotation, which makes a word even if it is empty. -/
  | mark
  | parameter (name : String) (change : Change) (argument : List Part) (quoted : Bool)
  | substitution (body : Command) (quoted : Bool)
  | arithmetic (expression : List Part) (quoted : Bool)

inductive Redirection where
  | file (stream : Nat) (access : Access) (name : List Part)
  /-- The stream becomes the one that the word names. -/
  | join (stream : Nat) (target : List Part)
  | here (stream : Nat) (text : List Part)

inductive Command where
  | nothing
  | simple (line : Nat) (assignments words : List (List Part)) (redirections : List Redirection)
  | pipeline (commands : List Command)
  | sequence (first second : Command)
  | both (first second : Command)
  | either (first second : Command)
  | negated (c : Command)
  | background (c : Command)
  | redirected (line : Nat) (c : Command) (redirections : List Redirection)
  | subshell (line : Nat) (c : Command) (redirections : List Redirection)
  | branch (condition yes no : Command)
  /-- Runs the body as long as the condition has the outcome `goal`. -/
  | loop (goal : Bool) (condition body : Command)
  /-- Without words, a run for each argument of the script. -/
  | each (line : Nat) (name : String) (words : Option (List (List Part))) (body : Command)
  | choice (line : Nat) (word : List Part) (cases : List (List (List Part) × Command))
  | define (line : Nat) (name : String) (body : Command)

end

abbrev Word := List Part

instance : Inhabited Command := ⟨.nothing⟩

/-- The text of a word that nothing has to be done for. -/
def Word.literal? (w : Word) : Option String :=
  let char? : Part → Option Char
    | .char c => some c
    | _ => none
  (w.mapM char?).map String.ofList

/-- The text of a word as it stands in the script, without its quotations. -/
def Word.unquoted (w : Word) : String :=
  String.ofList (w.filterMap fun
    | .char c | .kept c => some c
    | _ => none)

/-- The variable that a word gives a value to, and the value. -/
def Word.assignment? (w : Word) : Option (String × Word) :=
  let isPlain (p : Char → Bool) : Part → Bool
    | .char c => p c
    | _ => false
  let name := Word.unquoted (w.takeWhile (isPlain (· ≠ '=')))
  match w.drop name.length with
  | .char '=' :: value => if Raw.isName name then some (name, value) else none
  | _ => none

end SyntaxWire.Shell
