/-
Scripts and processes: running a script line by line, the traps that it sets,
and what is left to do when a process ends.

`run` stands for running a command that is a part of what is at work.
-/
import SyntaxWire.Shell.Expansion
import SyntaxWire.Shell.Grammar

namespace SyntaxWire.Shell

/-- How a command is run. -/
structure Mode where
  /-- Its status decides something, so a failure does not end the shell. -/
  tested : Bool := false

namespace Act

variable {m : Type → Type} [Monad m] (run : Mode → Command → Act m Unit)

/-- Runs the lines of a script; says whether there was any command. -/
def lines : Nat → Source → Act m Bool
  | 0, _ => return false
  | n + 1, s => do
    match { s with aliases := (← self).aliases }.nextLine? with
    | .error f =>
      change ({ · with line := f.line })
      fault ("Syntax error: " ++ f.message)
    | .ok (none, _) => return false
    | .ok (some .nothing, s) => lines n s
    | .ok (some c, s) =>
      change ({ · with reached := s.line })
      run {} c
      discard (lines n s)
      return true

def script (text : String) : Act m Bool := do
  let reached := (← self).reached
  let any ← lines run (text.length + 2) { rest := text.toList }
  change ({ · with reached })
  return any

/-- Runs the action of a trap. The status is as before, unless the action ends the process. -/
def action (text : String) : Act m Unit := do
  let status := (← self).status
  discard (script run text)
  setStatus status

/-- What is left to do when a process ends. -/
def farewell : Act m Unit := do
  match (← self).traps.lookup 0 with
  | none | some "" => return
  | some text =>
    change fun p => { p with traps := p.traps.filter (·.1 ≠ 0), builtin := none }
    action run text

/-- Goes on after anything but a signal that ends the shell. -/
def unlessKilled (act : Act m Unit) : Act m Unit := do
  try
    act
  catch
    | .killed number signal => throw (.killed number signal)
    | _ => pure ()

/-- Lets the processes in the background work. They get to it when the shell would have to wait for another. -/
def catchUp : Act m Unit := do
  let waiting := (← get).waiting
  modify ({ · with waiting := [] })
  for w in waiting do
    let before ← self
    change fun _ => w.process
    try
      let status ← inProcess do
        connect 0 (← newStream (.pipe ""))
        unlessKilled (run {} w.command)
        unlessKilled (farewell run)
      modify fun s => { s with ended := (w.number, status) :: s.ended }
    catch
      | .killed number signal => do
        change fun _ => before
        throw (.killed number signal)
      | _ => pure ()
    change fun _ => before

/-- Runs something to its end, as a process does. A process that has ended cannot be killed any more. -/
def toEnd (act : Act m Unit) : Act m Unit := do
  unlessKilled act
  unlessKilled (farewell run)
  try
    catchUp run
  catch
    | .killed number signal => if number ≠ (← self).number then throw (.killed number signal)
    | _ => pure ()

/-- Runs something as a process of its own and gives its status. -/
def process (act : Act m Unit) : Act m Nat := do
  catchUp run
  inProcess (toEnd run act)

/-- What a word expands with: running commands for their output. -/
def inside (c : Command) : Act m Unit := toEnd run (run {} c)

/-- Ends the shell after a failure, if it has been told to. -/
def checkFailure (mode : Mode) : Act m Unit := do
  let p ← self
  if p.status ≠ 0 ∧ ¬ mode.tested ∧ p.has 'e' then throw .exit

/-- Runs the actions of traps for signals that have come. -/
def runPending : Act m Unit := do
  for n in (← self).pending do
    change fun p => { p with pending := p.pending.drop 1 }
    if let some text := (← self).traps.lookup n then action run text

end Act

end SyntaxWire.Shell
