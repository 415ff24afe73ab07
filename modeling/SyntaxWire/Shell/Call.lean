/-
Simple commands: what their words stand for, what their name means, and the
call of a function, a builtin or a tool.

The number that goes with a word bounds how deep words stand inside one
another.
-/
import SyntaxWire.Shell.Program

namespace SyntaxWire.Shell

namespace Act

variable {m : Type → Type} [Monad m] (run : Mode → Command → Act m Unit)

/-- What a command name stands for. -/
inductive Meaning where
  | function (body : Command)
  | builtin
  | tool (name : String)
  /-- Nothing that can be run: the reason and the status. -/
  | nothing (why : String) (status : Nat)

/-- What a name may stand for: a program only, or a builtin too, or any command. -/
inductive Reach where
  | programs | builtins | all
deriving DecidableEq

def meaning (reach : Reach) (name : String) (directories : Option String := none) : Act m Meaning := do
  let p ← self
  match if reach = .all then p.functions.lookup name else none with
  | some body => return .function body
  | none =>
    if reach ≠ .programs ∧ name ∈ Builtin.names then return .builtin
    match Tool.find? ((directories.or (p.value? "PATH")).getD "") name with
    | some tool => return .tool tool
    | none =>
      if name = "" then return .nothing FileFault.denied.reason 127
      if name = "." ∨ name = ".." then return .nothing FileFault.denied.reason (if reach = .programs then 126 else 127)
      if '/' ∉ name.toList then return .nothing "not found" 127
      match ← kind name with
      | .ok _ => return .nothing FileFault.denied.reason 126
      | .error f =>
        if f ∈ [.notFound, .notDirectory] then return .nothing "not found" 127
        return .nothing f.reason (if f = .nameTooLong then 127 else 126)

/-- The path of a tool. -/
def toolPath (name : String) : String := if '/' ∈ name.toList then name else "/usr/bin/" ++ name

/-- What `type` and `command -V` say of a name, or what `command -v` says. -/
def describe (short : Bool) (name : String) : Act m Nat := do
  let p ← self
  let lead := if short then "" else name
  let say (long brief : String) : Act m Nat :=
    Builtin.say ((if short then brief else lead ++ long) ++ "\n")
  if name ∈ Parse.keywords then return ← say " is a shell keyword" name
  if let some text := p.aliases.lookup name then
    return ← say (" is an alias for " ++ text) ("alias " ++ name ++ "=" ++ Builtin.quote text)
  match ← meaning .all name with
  | .function _ => say " is a shell function" name
  | .builtin =>
    say (if name ∈ Parse.specialBuiltins then " is a special shell builtin" else " is a shell builtin") name
  | .tool _ => say (" is " ++ toolPath name) (toolPath name)
  | .nothing _ status =>
    if status = 126 then say (" is " ++ name) name
    else
      if ¬ short then discard (Builtin.say (m := m) (name ++ ": not found\n"))
      return 127

/-- Calls a function: its arguments and its own variables go when it ends. -/
def call (mode : Mode) (body : Command) (args : List String) : Act m Unit := do
  let before ← self
  if before.calls = 1000 then fault "Maximum function recursion depth (1000) reached"
  change ({ · with args, hidden := some [], loops := 0, calls := before.calls + 1 })
  let forget : Act m Unit := do
    for (name, old) in (← self).hidden.getD [] do
      change fun p => match old with
        | some v => p.setVariable name v
        | none => { p with vars := p.vars.filter (·.1 ≠ name) }
  let finish : Act m Unit :=
    change ({ · with args := before.args, hidden := before.hidden, loops := before.loops, calls := before.calls })
  try
    run mode body
  catch
    | .leave => pure ()
    | e => do
      if e ≠ .exit then forget
      finish
      throw e
  forget
  finish

/-- Runs a script in this process, under a name for messages. -/
def source (name : String) (mode : Mode) (text : String) : Act m Unit := do
  let before ← self
  change ({ · with builtin := some name })
  let any ← script (fun inner c => run { tested := inner.tested || mode.tested } c) text
  change ({ · with builtin := before.builtin })
  if ¬ any then setStatus 0

def dot (mode : Mode) (args : List String) : Act m Unit := do
  match (← Builtin.flagsOf [] args).2 with
  | [] => setStatus 0
  | name :: _ =>
    if '/' ∉ name.toList then fault (name ++ ": not found")
    match ← contents name with
    | .error .isDirectory => setStatus 0
    | .error f => fault (refusal .read name f)
    | .ok text =>
      try
        source run name mode text
      catch
        | .leave => pure ()
        | e => throw e

/-- Runs a builtin. An error in one that is special ends the shell. -/
def builtin (name : String) (special : Bool) (act : Act m Unit) : Act m Unit := do
  let before := (← self).builtin
  let restore : Act m Unit := change ({ · with builtin := before })
  change ({ · with builtin := some name })
  try
    act
    restore
  catch
    | .fault => do
      restore
      if special then throw .fault
    | e => do
      restore
      throw e

/-- Gives variables values for as long as something runs. -/
def withVariables (assignments : List (String × String)) (act : Act m Unit) : Act m Unit := do
  let before := (← self).vars
  for (name, value) in assignments do
    setVariable name value true
  let restore : Act m Unit := do
    for (name, _) in assignments do
      change fun p => match before.lookup name with
        | some v => p.setVariable name v
        | none => { p with vars := p.vars.filter (·.1 ≠ name) }
  try
    act
    restore
  catch e =>
    restore
    throw e

/-- Runs a command whose words have been expanded. -/
def perform (n : Nat) (mode : Mode) (assignments : List (String × String)) (reach : Reach) (special : Bool) :
    Nat → String → List String → Act m Unit
  | 0, _, _ => return
  | depth + 1, name, args => do
    let tool (name : String) (args : List String) : Act m Nat := (tool? run n name args).getD (return 127)
    match ← meaning reach name (assignments.lookup "PATH") with
    | .nothing why status =>
      warn (name ++ ": " ++ why)
      setStatus status
    | .tool found => launch run false assignments name (tool found args)
    | .function body => withVariables assignments (call run mode body args)
    | .builtin =>
      let settled (act : Act m Unit) : Act m Unit :=
        if special then do
          for (name, value) in assignments do
            setVariable name value
          act
        else withVariables assignments act
      match name with
      | "eval" =>
        settled (builtin name special (source run "eval" mode (" ".intercalate args)))
      | "." => settled (builtin name special (dot run mode args))
      | "exec" =>
        settled <| builtin name special do
          match args with
          | [] => setStatus 0
          | target :: rest =>
            match ← meaning .programs target with
            | .nothing why status =>
              warn (target ++ ": " ++ why)
              exit status
            | meaning =>
              let found := match meaning with
                | .tool found => found
                | _ => target
              launch run true [] target (tool found rest)
              change ({ · with traps := [] })
              throw .exit
      | "hash" =>
        settled <| builtin name special do
          let mut status := 0
          for arg in (← Builtin.flagsOf ['r'] args).2 do
            if '/' ∉ arg.toList then
              if let .nothing why _ ← meaning .all arg then
                warn (arg ++ ": " ++ why)
                status := 1
          setStatus status
      | "type" =>
        settled <| builtin name special do
          let mut status := 0
          for arg in args do
            status := max status (← describe false arg)
          setStatus status
      | "command" =>
        let before := (← self).builtin
        builtin name special do
          let (flags, rest) ← Builtin.flagsOf ['p', 'v', 'V'] args
          match rest with
          | [] => setStatus 0
          | target :: rest =>
            if 'v' ∈ flags ∨ 'V' ∈ flags then settled do setStatus (← describe ('V' ∉ flags) target)
            else
              change ({ · with builtin := before })
              perform n mode assignments .builtins false depth target rest
      | name =>
        if name = "wait" then catchUp run
        match Builtin.run? name args with
        | some act => settled (builtin name special (do setStatus (← act)))
        | none => setStatus 127

/-- The fields of the words of a command. Behind some builtins assignments are not split. -/
def arguments (n : Nat) (found : List String) : List Word → Act m (List String)
  | [] => return found
  | w :: ws => do
    let command := (found.dropWhile (· = "command")).head?
    let assigns := match command with
      | some name => decide (name ∈ Builtin.assigning)
      | none => false
    match if assigns then Word.assignment? w else none with
    | some (name, value) =>
      arguments n (found ++ [name ++ "=" ++ (← text (inside run) n value)]) ws
    | none => arguments n (found ++ (← fields (inside run) n w)) ws

def simple (n : Nat) (mode : Mode) (line : Nat) (assigned words : List Word) (rs : List Redirection) :
    Act m Unit := do
  change ({ · with line, substituted := 0 })
  let args ← arguments run n [] words
  let assignments ← (assigned.filterMap Word.assignment?).mapM fun (name, value) =>
    return (name, ← text (inside run) n value)
  if (← self).has 'x' then
    let lead := (← value? "PS4").getD "+ "
    write 2 (lead ++ " ".intercalate (assignments.map (fun (k, v) => k ++ "=" ++ v) ++ args) ++ "\n")
  match args with
  | [] =>
    redirected run n rs do
      for (name, value) in assignments do
        setVariable name value
      setStatus (← self).substituted
  | name :: args =>
    let special := name ∈ Parse.specialBuiltins
    let act := perform run n mode assignments .all special (args.length + 2) name args
    if name = "exec" ∧ args.isEmpty then
      let aims ← rs.mapM (aim run n)
      match ← redirect aims with
      | none => act
      | some why => fault why
    else
      redirected run n rs act (if special then throw .fault else pure ())

end Act

end SyntaxWire.Shell
