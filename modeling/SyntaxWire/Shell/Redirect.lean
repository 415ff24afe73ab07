/-
Redirections: their words are expanded first, and then the streams are opened
and connected one by one.
-/
import SyntaxWire.Shell.Process

namespace SyntaxWire.Shell

namespace Act

variable {m : Type → Type} [Monad m] (run : Mode → Command → Act m Unit)

/-- A redirection whose words have been expanded. -/
inductive Aim where
  | file (stream : Nat) (access : Access) (name : String)
  | join (stream other : Nat)
  | close (stream : Nat)
  | text (stream : Nat) (s : String)

/-- A stream that is to be joined must have a number of one digit. -/
def noNumber {α : Type} : Act m α := do
  change fun p => { p with line := p.reached }
  fault "Syntax error: Bad fd number"

def aim (n : Nat) : Redirection → Act m Aim
  | .file stream access w => return .file stream access (← text (inside run) n w)
  | .here stream w => return .text stream (← text (inside run) n w)
  | .join stream w => do
    let t ← text (inside run) n w
    match t.toList with
    | ['-'] => return .close stream
    | [d] => if d.isDigit then return .join stream (d.toNat - '0'.toNat) else noNumber
    | _ => noNumber

/-- Why a file cannot be opened, in the words of a redirection. -/
def refusal (access : Access) (name : String) (f : FileFault) : String :=
  let missing := f ∈ [.notFound, .notDirectory]
  if access = .read then "cannot open " ++ name ++ ": " ++ (if missing then "No such file" else f.reason)
  else "cannot create " ++ name ++ ": " ++ (if missing then "Directory nonexistent" else f.reason)

/-- Opens and connects streams in turn; says what is wrong with the first that cannot be had. -/
def redirect : List Aim → Act m (Option String)
  | [] => return none
  | .close stream :: rest => do
    disconnect stream
    redirect rest
  | .text stream s :: rest => do
    connect stream (← newStream (.pipe s))
    redirect rest
  | .join stream other :: rest => do
    match (← self).streams.lookup other with
    | none => return some (toString other ++ ": " ++ badStream.reason)
    | some i =>
      connect stream i
      redirect rest
  | .file stream access name :: rest => do
    let guarded := access = .write && (← self).has 'C'
    let kind ← kind name
    if guarded ∧ (kind matches .ok .file) then return some (refusal access name .alreadyExists)
    match ← openFile access name with
    | .error f => return some (refusal access name f)
    | .ok i =>
      connect stream i
      redirect rest

/-- Runs something with streams redirected. A redirection that fails gives status 2. -/
def redirected (n : Nat) (rs : List Redirection) (act : Act m Unit) (failed : Act m Unit := pure ()) :
    Act m Unit := do
  if rs.isEmpty then return ← act
  let aims ← rs.mapM (aim run n)
  withStreams do
    match ← redirect aims with
    | none => act
    | some why =>
      warn why
      setStatus 2
      failed

end Act

end SyntaxWire.Shell
