/-
Running commands, each kind by its parts. The number in `command` bounds how
deep commands stand inside one another, functions included.
-/
import SyntaxWire.Shell.Call

namespace SyntaxWire.Shell

namespace Act

variable {m : Type → Type} [Monad m] (run : Mode → Command → Act m Unit)

/-- Runs the commands of a pipeline, each with what the one before it has written. -/
def pipeline (input : Option Nat) : List Command → Act m Unit
  | [] => return
  | c :: rest => do
    let feed : Act m Unit := match input with
      | some i => connect 0 i
      | none => pure ()
    match rest with
    | [] => setStatus (← process run (do feed; run {} c))
    | rest =>
      let i ← newStream (.pipe "")
      discard <| process run do
        feed
        connect 1 i
        run {} c
      pipeline (some i) rest

/-- Runs one round of a loop; says whether another may follow. -/
def aRound (act : Act m Bool) : Act m Bool := do
  let loops := (← self).loops
  try
    act
  catch e =>
    change ({ · with loops })
    match e with
    | .leaveLoops n => if n ≤ 1 then return false else throw (.leaveLoops (n - 1))
    | .nextRound n => if n ≤ 1 then return true else throw (.nextRound (n - 1))
    | e => throw e

def inLoop (act : Act m Unit) : Act m Unit := do
  let loops := (← self).loops
  change ({ · with loops := loops + 1 })
  act
  change ({ · with loops })

def rounds (mode : Mode) (goal : Bool) (condition body : Command) : Nat → (status : Nat) → Act m Unit
  | 0, status => setStatus status
  | n + 1, status => do
    let goesOn ← aRound do
      run { tested := true } condition
      if ((← self).status == 0) != goal then
        setStatus status
        return false
      run mode body
      return true
    if goesOn then rounds mode goal condition body n (← self).status

def eachOf (mode : Mode) (name : String) (body : Command) : List String → Act m Unit
  | [] => return
  | value :: rest => do
    setVariable name value
    let goesOn ← aRound do
      run mode body
      return true
    if goesOn then eachOf mode name body rest

/-- The body of the first case with a pattern that accepts the text. -/
def chosen (n : Nat) (subject : String) : List (List Word × Command) → Act m (Option Command)
  | [] => return none
  | (words, body) :: rest => do
    if ← fits words then return some body
    chosen n subject rest
where
  fits : List Word → Act m Bool
    | [] => return false
    | w :: ws => do
      if (← pattern (inside run) n w).accepts subject.toList then return true
      fits ws

/-- Runs a command by running its parts. -/
def compound (n : Nat) (mode : Mode) : Command → Act m Unit
  | .nothing => setStatus 0
  | .simple line assigned words rs => do
    simple run n mode line assigned words rs
    checkFailure mode
  | .pipeline cs => do
    pipeline run none cs
    checkFailure mode
  | .sequence a b => do
    run mode a
    run mode b
  | .both a b => do
    run { tested := true } a
    if (← self).status = 0 then run mode b
  | .either a b => do
    run { tested := true } a
    if (← self).status ≠ 0 then run mode b
  | .negated c => do
    run { tested := true } c
    setStatus (if (← self).status = 0 then 1 else 0)
  | .background c => do
    let p ← self
    let s ← get
    let number := p.number + s.waiting.length + s.ended.length + 1
    modify fun s => { s with waiting := s.waiting ++ [⟨number, p, c⟩] }
    change ({ · with status := 0, background := some number })
  | .redirected line c rs => do
    change ({ · with line })
    redirected run n rs (run mode c)
  | .subshell line c rs => do
    change ({ · with line })
    redirected run n rs (do setStatus (← process run (run mode c)))
    checkFailure mode
  | .branch condition yes no => do
    run { tested := true } condition
    run mode (if (← self).status = 0 then yes else no)
  | .loop goal condition body => inLoop (rounds run mode goal condition body 100000 0)
  | .each line name words body => do
    change ({ · with line })
    let values ← match words with
      | some ws => do pure (← ws.mapM (fields (inside run) n)).flatten
      | none => do pure (← self).args
    setStatus 0
    inLoop (eachOf run mode name body values)
  | .choice line word cases => do
    change ({ · with line })
    let subject ← text (inside run) n word
    match ← chosen run n subject cases with
    | some body => run mode body
    | none => setStatus 0
  | .define _ name body => do
    change fun p => { p with functions := (name, body) :: p.functions.filter (·.1 ≠ name), status := 0 }

/-- Runs a command. One that stands too deep ends the shell. -/
def command : Nat → Mode → Command → Act m Unit
  | 0, _, _ => overrun
  | n + 1, mode, c => do
    if (← self).has 'n' then return
    compound (command n) n mode c
    runPending (command n)

end Act

end SyntaxWire.Shell
