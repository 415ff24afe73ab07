/-
Tools that start other tools, and starting a tool as a process of its own. A
shell is a tool as well.
-/
import SyntaxWire.Shell.Builtin
import SyntaxWire.Shell.Redirect
import SyntaxWire.Shell.Tool

namespace SyntaxWire.Shell

open Tool (Manual refuse)

namespace Act

variable {m : Type → Type} [Monad m] (run : Mode → Command → Act m Unit)

/-- The variables that a new program finds. -/
def environment (p : Process) : List (String × Variable) :=
  p.vars.filter fun (_, v) => v.exported && v.value.isSome

/-- Takes the options of a shell that is started as a program. Gives their letters and the other arguments. -/
def programOptions : Nat → List String → Act m (List Char × List String)
  | 0, args => return ([], args)
  | n + 1, args => do
    let refuse (message : String) : Act m Unit := do
      Tool.complain ("0: " ++ message)
      exit 2
    match args with
    | [] => return ([], [])
    | "--" :: rest | "-" :: rest => return ([], rest)
    | arg :: rest =>
      match arg.toList with
      | sign :: cs =>
        if sign ≠ '-' ∧ sign ≠ '+' then return ([], args)
        let (letters, rest) ← Builtin.setLetters refuse ['c', 'l'] (decide (sign = '-')) cs rest
        let (more, rest) ← programOptions n rest
        return (letters ++ more, rest)
      | [] => return ([], args)

/-- A shell as a program: `sh` with its arguments. -/
def shellProgram (args : List String) : Act m Nat := do
  let p ← self
  change ({ · with options := Builtin.optionNames.map (·.2) })
  let (letters, rest) ← programOptions (args.length + 1) args
  let options := (← self).options.filter (· ∈ letters)
  let fresh (name : String) (given : List String) : Act m Unit := change fun _ =>
    { name, number := p.number + 1, args := given, vars := Process.initial ++ environment p,
      options, directory := p.directory, streams := p.streams, traps := p.traps.filter (·.2 = "") }
  let go (text : Except FileFault String) : Act m Unit :=
    match text with
    | .ok text => discard (script run text)
    | .error _ => pure ()
  if 'c' ∈ letters then
    match rest with
    | [] =>
      Tool.complain "0: -c requires an argument"
      exit 2
    | text :: given =>
      fresh (given.headD p.name) (given.drop 1)
      go (.ok text)
  else
    match rest, decide ('s' ∈ options) with
    | file :: given, false =>
      match ← contents file with
      | .ok text =>
        fresh file given
        go (.ok text)
      | .error .isDirectory => setStatus 0
      | .error f =>
        Tool.complain ("0: " ++ refusal .read file f)
        exit 2
    | given, _ =>
      fresh p.name given
      go (← readAll 0)
  return (← self).status

/-- How a tool is started in place of another, by its name. -/
abbrev Launcher (m : Type → Type) := String → List String → Option (Act m Nat)

/-- Starts a tool in place of another, which reports it when that cannot be done. `say` makes up the report. -/
def start (launch : Launcher m) (say : String → String) : List String → Act m Nat
  | [] => return 0
  | name :: args => do
    let p ← self
    match (Tool.find? ((p.value? "PATH").getD "") name).bind (launch · args) with
    | some act =>
      change ({ · with name })
      act
    | none =>
      let why : FileFault ← if '/' ∉ name.toList then pure .notFound
        else match ← kind name with
          | .ok _ => pure .denied
          | .error f => pure f
      Tool.complain (say name ++ ": " ++ why.reason)
      return if why = .notFound then 127 else 126

def quotedName (name : String) : String := Quoting.always name

/-- `env`: sets variables and starts a tool. -/
def env (launch : Launcher m) (args : List String) : Act m Nat := do
  let a ← Manual.sort (m := m) { failure := 125, leading := true, flags := ['i', '0'], valued := ['u'], long := [
    ("ignore-environment", 'i'), ("null", '0'), ("unset", 'u')] } args
  let all := a.others.head? = some "-" || a.has 'i'
  change fun p => { p with vars := (p.vars.map fun (k, v) =>
    (k, if all then { v with exported := false } else v)).filter fun (k, _) => k ∉ a.values 'u' }
  let assigns (arg : String) : Bool := '=' ∈ arg.toList
  let words := a.others.dropWhile (· = "-")
  for arg in words.takeWhile assigns do
    let (name, value) := Raw.cut (· = '=') arg
    setVariable name (String.ofList (value.toList.drop 1)) true
  match words.dropWhile assigns with
  | [] =>
    let shown := environment (← self)
    let ending := if a.has '0' then "\x00" else "\n"
    Tool.emit (String.join (shown.map fun (k, v) => k ++ "=" ++ v.value.getD "" ++ ending))
    return 0
  | command => start launch quotedName command

/-- `timeout`, whose first argument is a time. -/
def timeout (launch : Launcher m) (args : List String) : Act m Nat := do
  let k : Manual := { failure := 125, leading := true, flags := ['f', 'v'], valued := ['s', 'k'] }
  let a ← k.sort args
  match a.others with
  | [] | [_] => refuse k "missing operand"
  | _ :: command => start launch (fun name => "failed to run command " ++ quotedName name) command

/-- The words of a text, for `xargs`. Blanks separate them unless they are quoted. -/
def wordsOf (word : Option (List Char)) : List Char → List String
  | [] => (word.map fun w => String.ofList w.reverse).toList
  | '\\' :: c :: cs => wordsOf (some (c :: word.getD [])) cs
  | c :: cs =>
    if c = '\'' ∨ c = '"' then inQuotes c (word.getD []) cs
    else if c ∈ [' ', '\t', '\n'] then (word.map fun w => String.ofList w.reverse).toList ++ wordsOf none cs
    else wordsOf (some (c :: word.getD [])) cs
where
  inQuotes (quote : Char) (word : List Char) : List Char → List String
    | [] => [String.ofList word.reverse]
    | c :: cs => if c = quote then wordsOf (some word) cs else inQuotes quote (c :: word) cs

def groupsOf (size : Nat) : Nat → List String → List (List String)
  | 0, _ | _, [] => []
  | n + 1, ws => ws.take size :: groupsOf size n (ws.drop size)

/-- `xargs`: starts a tool with the words of the input as further arguments. -/
def xargs (launch : Launcher m) (args : List String) : Act m Nat := do
  let a ← Manual.sort (m := m) { leading := true, flags := ['r', 't', '0', 'x'], valued := "nILPdsE".toList, long := [
    ("no-run-if-empty", 'r'), ("null", '0'), ("max-args", 'n'), ("replace", 'I'), ("delimiter", 'd')] } args
  let text ← match ← readAll 0 with
    | .ok s => pure s
    | .error _ => pure ""
  let command := if a.others.isEmpty then ["echo"] else a.others
  let words :=
    if a.has '0' then (text.splitOn "\x00").filter (· ≠ "")
    else match a.value? 'd' with
      | some d => ((Raw.withoutEnd text).splitOn d).filter (· ≠ "")
      | none => wordsOf none text.toList
  let all : List (List String) :=
    match a.value? 'I', a.value? 'n' with
    | some mark, _ =>
      let lines := (Tool.bareLines text).filter (· ≠ "")
      lines.map fun line => command.map fun w => line.intercalate (w.splitOn mark)
    | none, some size =>
      (groupsOf (max 1 ((Raw.count? size).getD 1)) (words.length + 1) words).map (command ++ ·)
    | none, none => if a.has 'r' ∧ words.isEmpty then [] else [command ++ words]
  let mut status := 0
  for one in all do
    let s ← inProcess do
      setStatus (← start launch id one)
    if s = 127 ∨ s = 126 then return s
    if s ≠ 0 then status := 123
  return status

/-- A tool by its name. The number bounds how many tools start one another. -/
def tool? : Nat → Launcher m
  | 0, _, _ => none
  | n + 1, name, args =>
    let launch := tool? n
    match name with
    | "sh" | "dash" => some (shellProgram run args)
    | "env" => some (env launch args)
    | "xargs" => some (xargs launch args)
    | "nice" => some (start launch quotedName args)
    | "nohup" => some (start launch (fun name => "failed to run command " ++ quotedName name) args)
    | "timeout" => some (timeout launch args)
    | "test" | "[" => some (Builtin.test name args)
    | name => Tool.run? name args

/-- Runs a tool as a process of its own, or in place of the shell. A shell that is killed is reported. -/
def launch (replaces : Bool) (assignments : List (String × String)) (name : String) (act : Act m Nat) :
    Act m Unit := do
  let before ← self
  try
    let status ← process run do
      for (name, value) in assignments do
        setVariable name value true
      change ({ · with name, builtin := none, traps := before.traps.filter (·.2 = "") })
      setStatus (← act)
    setStatus status
  catch
    | .killed number signal =>
      if number = before.number then throw (.killed number signal)
      change fun _ => before
      if replaces then throw (.killed before.number signal)
      let said := Signal.epitaph signal
      if said ≠ "" then write 2 (said ++ "\n")
      setStatus (128 + signal)
    | e => throw e

end Act

end SyntaxWire.Shell
