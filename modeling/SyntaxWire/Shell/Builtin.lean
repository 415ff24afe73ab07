/-
The commands that the shell runs in its own process and that need no other
command to be run.
-/
import SyntaxWire.Shell.Builtin.Setting
import SyntaxWire.Shell.Condition
import SyntaxWire.Shell.Expansion
import SyntaxWire.Shell.Format
import SyntaxWire.Shell.Grammar
import SyntaxWire.Shell.Signal

namespace SyntaxWire.Shell.Builtin

variable {m : Type → Type} [Monad m]

def printf (args : List String) : Act m Nat := do
  let (_, args) ← options [] [] 2 args
  match args with
  | [] => Act.fault "usage: printf format [arg ...]"
  | form :: args =>
    let (done, fatal) := Format.printf form args
    for complaint in done.complaints do
      Act.warn complaint.message
    let status := if done.complaints.isEmpty then 0 else 1
    let status ← say (String.ofList done.out) status
    match fatal with
    | some message => Act.fault message
    | none => return status

def test (name : String) (args : List String) : Act m Nat := do
  let words ← if name ≠ "[" then pure args else
    match args.reverse with
    | "]" :: rest => pure rest.reverse
    | _ => Act.fault "missing ]"
  return if ← Condition.test words then 0 else 1

def noJob {α : Type} (name : String) : Act m α := Act.fault ("No such job: " ++ name)

/-- Sends a signal to the shell. -/
def signal (n : Nat) : Act m Unit := do
  let p ← Act.self
  match p.traps.lookup n with
  | some "" => return
  | some _ => Act.change fun p => { p with pending := p.pending ++ [n] }
  | none => if ¬ Signal.isHarmless n then throw (.killed p.number n)

def signalEach (n : Nat) : List String → Act m Nat
  | [] => return 0
  | target :: rest => do
    let digits := if target.startsWith "-" then String.ofList (target.toList.drop 1) else target
    if target.startsWith "%" then noJob target
    let number ← Act.number digits
    if number = (← Act.self).number ∧ digits = target then
      signal n
      signalEach n rest
    else
      Act.warn "No such process\n"
      discard (signalEach n rest)
      return 1

def kill (args : List String) : Act m Nat := do
  let usage {α : Type} : Act m α := Act.fault
    "Usage: kill [-s sigspec | -signum | -sigspec] [pid | job]... or\nkill -l [exitstatus]"
  let send (n : Nat) (targets : List String) : Act m Nat := do
    if targets.isEmpty then usage
    signalEach n targets
  match args with
  | [] => usage
  | first :: rest =>
    if ¬ first.startsWith "-" then return ← send 15 args
    match Signal.find? 1 (String.ofList (first.toList.drop 1)) with
    | some n => send n rest
    | none =>
      let (found, targets) ← options ['l'] ['s'] (args.length + first.length) args
      let n ← match found.lookup 's' with
        | none => pure 15
        | some name =>
          match Signal.find? 1 name with
          | some n => pure n
          | none => Act.fault ("invalid signal number or name: " ++ name)
      if (found.lookup 'l').isNone then return ← send n targets
      if (found.lookup 's').isSome then usage
      match targets with
      | [] =>
        let names := ((List.range Signal.limit).drop 1).map Signal.name
        say ("0\n" ++ String.join (names.map (· ++ "\n")))
      | text :: _ =>
        let n ← Act.number text
        let n := if 128 < n then n - 128 else n
        if 0 < n ∧ n < Signal.limit then say (Signal.name n ++ "\n")
        else Act.fault ("invalid signal number or exit status: " ++ text)

def changeDirectory (args : List String) : Act m Nat := do
  let (_, args) ← flagsOf ['L', 'P'] args
  let p ← Act.self
  let target := match args with
    | [] => (p.value? "HOME").getD ""
    | "-" :: _ => (p.value? "OLDPWD").getD p.directory
    | name :: _ => name
  let whole := "/" ++ "/".intercalate (p.wayTo target)
  match ← Act.kind (if target.startsWith "/" then whole else target) with
  | .ok .directory =>
    Act.setVariable "OLDPWD" p.directory
    Act.change ({ · with directory := whole })
    Act.setVariable "PWD" whole
    if args.head? = some "-" then say (whole ++ "\n") else return 0
  | _ => Act.fault ("can't cd to " ++ target)

def shift (args : List String) : Act m Nat := do
  let n ← match args with
    | [] => pure 1
    | text :: _ => Act.number text
  let p ← Act.self
  if p.args.length < n then Act.fault "can't shift that many"
  Act.change ({ · with args := p.args.drop n })
  return 0

/-- A name and the value that an argument gives to it. -/
def nameAndValue (arg : String) : Act m (String × Option String) := do
  let (name, rest) := Raw.cut (· = '=') arg
  if ¬ Raw.isName name then Act.fault (name ++ ": bad variable name")
  return (name, if rest = "" then none else some (String.ofList (rest.toList.drop 1)))

def mark (lead : String) (want : Variable → Bool) (set_ : Variable → Variable) (args : List String) :
    Act m Nat := do
  let (_, args) ← flagsOf ['p'] args
  if args.isEmpty then return ← say (assignments (← Act.self) (lead ++ " ") want)
  for arg in args do
    let (name, value) ← nameAndValue arg
    if let some value := value then Act.setVariable name value
    Act.change fun p => p.setVariable name (set_ ((p.vars.lookup name).getD {}))
  return 0

def localVariables (args : List String) : Act m Nat := do
  if (← Act.self).hidden.isNone then Act.fault "not in a function"
  for arg in args do
    let (name, value) ← nameAndValue arg
    if let some hidden := (← Act.self).hidden then
      let old := (← Act.self).vars.lookup name
      if (hidden.lookup name).isNone then Act.change ({ · with hidden := some ((name, old) :: hidden) })
    if let some value := value then Act.setVariable name value
  return 0

def unset (args : List String) : Act m Nat := do
  let (flags, args) ← flagsOf ['v', 'f'] args
  for name in args do
    if flags.getLast? = some 'f' then
      Act.change fun p => { p with functions := p.functions.filter (·.1 ≠ name) }
    else
      let (name, _) ← nameAndValue name
      if (((← Act.self).vars.lookup name).getD {}).readOnly then Act.fault (name ++ ": is read only")
      Act.change fun p => { p with vars := p.vars.filter (·.1 ≠ name) }
  return 0

/-- A logical line for `read`: its characters, and whether each is escaped. -/
def logicalLine (plain : Bool) : Nat → Act m (List Glyph × Bool)
  | 0 => return ([], false)
  | n + 1 => do
    let line ← match ← Act.readLine 0 with
      | .ok line => pure line
      | .error _ => pure ""
    let body := (Raw.withoutEnd line).toList
    let ended := line.endsWith "\n"
    if plain then return (body.map (·, false), ended)
    let (glyphs, goesOn) := escapes body
    if goesOn ∧ ended then
      let (more, ended) ← logicalLine plain n
      return (glyphs ++ more, ended)
    return (glyphs, ended)
where
  escapes : List Char → List Glyph × Bool
    | [] => ([], false)
    | ['\\'] => ([], true)
    | '\\' :: c :: cs =>
      let (gs, goesOn) := escapes cs
      ((c, true) :: gs, goesOn)
    | c :: cs =>
      let (gs, goesOn) := escapes cs
      ((c, false) :: gs, goesOn)

/-- Cuts a line into as many values as asked for; the last gets all that is left. -/
def values (separators : List Char) : Nat → List Glyph → List String
  | 0, _ => []
  | n + 1, gs =>
    let isBlank : Glyph → Bool := fun (c, quoted) => !quoted && c ∈ separators && c ∈ [' ', '\t', '\n']
    let separates : Glyph → Bool := fun (c, quoted) => !quoted && c ∈ separators
    let gs := gs.dropWhile isBlank
    let one := gs.takeWhile fun g => !separates g
    let rest := (gs.drop one.length).dropWhile isBlank
    let after := match rest with
      | g :: rest' => if separates g then rest'.dropWhile isBlank else rest
      | [] => []
    let text (gs : List Glyph) : String := String.ofList (gs.map (·.1))
    if n = 0 then
      [text (if after.isEmpty then one else (gs.reverse.dropWhile isBlank).reverse)]
    else text one :: values separators n after

def readLine (args : List String) : Act m Nat := do
  let (found, names) ← options ['r'] ['p'] (args.length + 3) args
  if names.isEmpty then Act.fault "arg count"
  if let some question := found.lookup 'p' then Act.write 2 question
  let (gs, ended) ← logicalLine ((found.lookup 'r').isSome) 1000
  for (name, value) in names.zip (values (← Act.self).separators names.length gs) do
    Act.setVariable (← nameAndValue name).1 value
  return if ended then 0 else 1

def leave (args : List String) : Act m Nat := do
  if let text :: _ := args then Act.setStatus (← Act.number text)
  throw .leave

def exit (args : List String) : Act m Nat := do
  if let text :: _ := args then Act.setStatus (← Act.number text)
  throw .exit

/-- Leaves loops or goes on to the next round of one. -/
def jump (interrupt : Nat → Interrupt) (args : List String) : Act m Nat := do
  let n ← match args with
    | [] => pure 1
    | text :: _ => do
      let n ← Act.number text
      if n = 0 then Act.fault ("Illegal number: " ++ text)
      pure n
  let loops := (← Act.self).loops
  if loops = 0 then return 0
  Act.setStatus 0
  throw (interrupt (min n loops))

def defineAlias (args : List String) : Act m Nat := do
  let p ← Act.self
  if args.isEmpty then
    return ← say (String.join (p.aliases.map fun (n, s) => n ++ "=" ++ quote s ++ "\n"))
  let mut status := 0
  for arg in args do
    let (name, rest) := Raw.cut (· = '=') arg
    if rest = "" then
      match (← Act.self).aliases.lookup name with
      | some s => discard (say (name ++ "=" ++ quote s ++ "\n"))
      | none =>
        Act.write 2 ("alias: " ++ name ++ " not found\n")
        status := 1
    else
      Act.change fun p =>
        { p with aliases := (name, String.ofList (rest.toList.drop 1)) :: p.aliases.filter (·.1 ≠ name) }
  return status

def unalias (args : List String) : Act m Nat := do
  let (flags, args) ← flagsOf ['a'] args
  if ¬ flags.isEmpty then
    Act.change ({ · with aliases := [] })
    return 0
  let mut status := 0
  for name in args do
    if ((← Act.self).aliases.lookup name).isNone then
      Act.write 2 ("unalias: " ++ name ++ " not found\n")
      status := 1
    Act.change fun p => { p with aliases := p.aliases.filter (·.1 ≠ name) }
  return status

def trap (args : List String) : Act m Nat := do
  let (_, args) ← flagsOf [] args
  match args with
  | [] =>
    let traps := (← Act.self).traps.mergeSort fun a b => decide (a.1 ≤ b.1)
    say (String.join (traps.map fun (n, action) => "trap -- " ++ quote action ++ " " ++ Signal.name n ++ "\n"))
  | first :: rest =>
    let (action, names) : Option String × List String :=
      if rest.isEmpty ∨ (Signal.find? 0 first).isSome then (none, args)
      else (if first = "-" then none else some first, rest)
    for name in names do
      match Signal.find? 0 name with
      | none =>
        Act.write 2 ("trap: " ++ name ++ ": bad trap\n")
        return 1
      | some n => Act.change fun p =>
          { p with traps := (action.map (n, ·)).toList ++ p.traps.filter (·.1 ≠ n) }
    return 0

/-- The next option of a script's arguments. -/
def getopts (args : List String) : Act m Nat := do
  match args with
  | letters :: name :: given =>
    let p ← Act.self
    let given := if given.isEmpty then p.args else given
    let quiet := letters.startsWith ":"
    let index := ((p.value? "OPTIND").bind Raw.count?).getD 1
    let place := if index = 1 ∧ p.optionPlace = 0 then 0 else p.optionPlace
    let current := ((given[index - 1]?).getD "").toList
    let finish (index : Nat) : Act m Nat := do
      Act.change ({ · with optionPlace := 0 })
      Act.setVariable "OPTIND" (toString index)
      Act.setVariable name "?"
      return 1
    let place := if place = 0 then 1 else place
    if place = 1 ∧ (current.head? ≠ some '-' ∨ current.length < 2) then return ← finish index
    if place = 1 ∧ current = ['-', '-'] then return ← finish (index + 1)
    match current.drop place with
    | [] => finish index
    | c :: rest =>
      let advance (index place : Nat) : Act m Unit := do
        Act.change ({ · with optionPlace := place })
        Act.setVariable "OPTIND" (toString index)
      let step : Act m Unit := if rest.isEmpty then advance (index + 1) 0 else advance index (place + 1)
      let letter := String.ofList [c]
      match letters.toList.dropWhile (· ≠ c) with
      | _ :: ':' :: _ =>
        match rest, given[index]? with
        | [], none =>
          advance (index + 1) 0
          if quiet then Act.setVariable "OPTARG" letter
          else Act.write 2 ("No arg for -" ++ letter ++ " option\n")
          Act.setVariable name (if quiet then ":" else "?")
          return 0
        | [], some value =>
          advance (index + 2) 0
          Act.setVariable "OPTARG" value
        | rest, _ =>
          advance (index + 1) 0
          Act.setVariable "OPTARG" (String.ofList rest)
        Act.setVariable name letter
        return 0
      | found =>
        step
        if found.isEmpty ∨ c = ':' then
          if quiet then Act.setVariable "OPTARG" letter
          else Act.write 2 ("Illegal option -" ++ letter ++ "\n")
          Act.setVariable name "?"
        else Act.setVariable name letter
        return 0
  | _ => Act.fault "Usage: getopts optstring var [arg...]"

def wait (args : List String) : Act m Nat := do
  let (_, args) ← flagsOf [] args
  let mut status := 0
  for text in args do
    if text.startsWith "%" then noJob text
    let n ← Act.number text
    status := ((← get).ended.lookup n).getD 127
  return status

/-- `jobs`, which shows nothing, as no job is under the shell's control. -/
def jobs (args : List String) : Act m Nat := do
  match (← flagsOf ['l', 'p'] args).2 with
  | [] => return 0
  | name :: _ => noJob name

/-- `fg` and `bg`, which have no job to go on with. -/
def resume (args : List String) : Act m Nat := do
  match (← flagsOf [] args).2 with
  | [] => Act.fault "No current job"
  | name :: _ => noJob name

def showDirectory (args : List String) : Act m Nat := do
  discard (flagsOf ['L', 'P'] args)
  say ((← Act.self).directory ++ "\n")

def run? (name : String) (args : List String) : Option (Act m Nat) :=
  match name with
  | ":" | "true" => some (return 0)
  | "false" => some (return 1)
  | "echo" => some (say (Format.echo args))
  | "printf" => some (printf args)
  | "test" | "[" => some (test name args)
  | "kill" => some (kill args)
  | "cd" | "chdir" => some (changeDirectory args)
  | "pwd" => some (showDirectory args)
  | "shift" => some (shift args)
  | "set" => some (set args)
  | "export" => some (mark "export" (·.exported) ({ · with exported := true }) args)
  | "readonly" => some (mark "readonly" (·.readOnly) ({ · with readOnly := true }) args)
  | "local" => some (localVariables args)
  | "unset" => some (unset args)
  | "read" => some (readLine args)
  | "return" => some (leave args)
  | "exit" => some (exit args)
  | "break" => some (jump .leaveLoops args)
  | "continue" => some (jump .nextRound args)
  | "alias" => some (defineAlias args)
  | "unalias" => some (unalias args)
  | "trap" => some (trap args)
  | "getopts" => some (getopts args)
  | "wait" => some (wait args)
  | "times" => some (say "0m0.000000s 0m0.000000s\n0m0.000000s 0m0.000000s\n")
  | "umask" => some (mask args)
  | "ulimit" => some (limit args)
  | "jobs" => some (jobs args)
  | "bg" | "fg" => some (resume args)
  | _ => none

/-- Builtins that run other commands or look for them. -/
def directing : List String := [".", "command", "eval", "exec", "hash", "type"]

/-- Builtins whose arguments may be assignments. -/
def assigning : List String := ["alias", "export", "local", "readonly"]

def names : List String :=
  [":", "true", "false", "echo", "printf", "test", "[", "kill", "cd", "chdir", "pwd", "shift", "set", "export",
    "readonly", "local", "unset", "read", "return", "exit", "break", "continue", "alias", "unalias", "trap",
    "getopts", "wait", "times", "umask", "ulimit", "jobs", "bg", "fg"] ++ directing

end SyntaxWire.Shell.Builtin
