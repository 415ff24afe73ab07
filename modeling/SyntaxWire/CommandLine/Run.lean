/-
Running the commands.

A command prints its result and exits with 0, or stops at its first trouble
and exits with 1. Trouble is a chain of messages: what was being done, and
the causes of its failure from the outside in. A result that cannot be printed
is no trouble of the command: the program breaks off there and exits with 101.
-/
import SyntaxWire.CommandLine.Arguments
import SyntaxWire.Event
import SyntaxWire.Hash.Blake3
import SyntaxWire.Host
import SyntaxWire.Registry.Build
import SyntaxWire.Registry.Evolution
import SyntaxWire.Stream.Encode
import SyntaxWire.Table.Builtin
import SyntaxWire.Text.Utf8
import SyntaxWire.Tree.Json

namespace SyntaxWire.CommandLine

/-- A message and its causes. -/
structure Trouble where
  message : String
  causes : List String := []
deriving DecidableEq, Repr

namespace Trouble

def ofChain : List String → Trouble
  | [] => ⟨"", []⟩
  | m :: causes => ⟨m, causes⟩

/-- Says what was being done when the trouble came up. -/
def during (what : String) (t : Trouble) : Trouble := ⟨what, t.message :: t.causes⟩

/-- Puts a cause behind its margin; the lines after its first one stand under it. -/
def indent (margin : String) (cause : String) : String :=
  margin ++ ("\n" ++ "".pushn ' ' margin.length).intercalate (cause.splitOn "\n") ++ "\n"

/-- The report on the error stream. Causes are numbered when there are two or more. -/
def report (t : Trouble) : String :=
  let causes := match t.causes with
    | [] => ""
    | [c] => "\nCaused by:\n" ++ indent "    " c
    | cs => "\nCaused by:\n" ++ String.join (cs.zipIdx.map fun (c, i) =>
        indent ("".pushn ' ' (5 - (toString i).length) ++ s!"{i}: ") c)
  s!"Error: {t.message}\n" ++ causes

end Trouble

variable {m : Type → Type} [Monad m]

/-- A command in progress. It may stop, and it collects warnings. -/
abbrev Job (m : Type → Type) (α : Type) := ExceptT Trouble (StateT (List Event) m) α

namespace Job

/-- A step that fails with the given trouble. -/
def check {ε α : Type} (trouble : ε → Trouble) (x : Except ε α) : Job m α :=
  match x with
  | .ok a => pure a
  | .error e => throw (trouble e)

/-- A step on the host that fails with the given trouble. -/
def perform {ε α : Type} (trouble : ε → Trouble) (x : m (Except ε α)) : Job m α := do
  check trouble (← (liftM (liftM x : StateT (List Event) m (Except ε α)) : Job m (Except ε α)))

def warn (events : List Event) : Job m Unit := modify (· ++ events)

end Job

open Job

def fileTrouble (f : FileFault) : Trouble := ⟨f.message, []⟩

def jsonTrouble (f : Json.Fault) : Trouble := ⟨f.message, []⟩

def codecTrouble (f : CodecFault) : Trouble := ⟨f.message, []⟩

def buildTrouble (f : BuildFault) : Trouble := ⟨f.message, []⟩

def evolutionTrouble (f : EvolutionFault) : Trouble := ⟨f.message, []⟩

def tableTrouble (f : TableFault) : Trouble := .ofChain f.chain

/-- The table that a generator has printed. -/
def generatedTable (command : String) (run : ToolRun) : Except Trouble KindTable := do
  match ToolFailure.ofStatus run.status (Text.Utf8.lossyText run.stderr) with
  | some f => throw ⟨s!"table generator `{command}`", [f.message]⟩
  | none =>
    match Bytes.text? run.stdout with
    | none => throw ⟨"table generator printed non-UTF-8 output", ((Text.Utf8.firstFault? run.stdout).map (·.message)).toList⟩
    | some text => (KindTable.ofJson text).mapError fun f => tableTrouble (.json f)

def tableOf (h : Host m) : TableSource → Job m KindTable
  | .builtin => pure .builtin
  | .file path => perform (fun f => (tableTrouble f).during s!"reading {path}") (h.loadTable path)
  | .generated command => do
    let run ← liftM (liftM (h.generate command) : StateT (List Event) m ToolRun)
    check id (generatedTable command run)

def registryOf (h : Host m) (source : TableSource) : Job m Registry := do
  check buildTrouble (Registry.build (← tableOf h source))

/-- The registry of a table file, with the file named in all trouble. -/
def registryIn (h : Host m) (path : String) : Job m Registry := do
  let during (t : Trouble) := t.during s!"loading {path}"
  let table ← perform (fun f => during (tableTrouble f)) (h.loadTable path)
  check (fun f => during (buildTrouble f)) (Registry.build table)

/-- One line on a kind; a collection also has its family. -/
def kindLine (k : NodeKind) : String :=
  let family := if k.isCollection then s!" ({k.family.name})" else ""
  s!"{k.code}\t{k.name}\t{k.category.name}{family}\n"

/-- A decoded tree as JSON, under codes or under names. -/
def renderTree (r : Registry) (t : CodeTree) (raw pretty : Bool) : Except CodecFault String := do
  let json ← if raw then .ok (TreeFormat.coded.toJson t)
    else (r.raise t).map TreeFormat.named.toJson
  .ok (if pretty then json.pretty else json.compact)

/-- Runs a command; gives what it prints. -/
def execute (h : Host m) : Command → Job m String
  | .validate source => do
    let r ← registryOf h source
    pure s!"ok: {r.size} kinds, checksum {hexWord r.checksum}\n"
  | .checksum source => do
    let r ← registryOf h source
    pure (hexWord r.checksum ++ "\n")
  | .kinds source category => do
    let r ← registryOf h source
    let wanted := r.kinds.filter fun k => category.all (k.category = ·)
    pure (String.join (wanted.map kindLine))
  | .encode source limits input out => do
    let r ← registryOf h source
    let text ← perform (fun f => (fileTrouble f).during s!"reading {input}") (h.readText input)
    let tree ← check jsonTrouble (TreeFormat.named.ofJson text)
    let codec : Codec := { limits }
    let stream ← check codecTrouble (codec.encode r tree)
    perform fileTrouble (h.writeFile out stream)
    let key := (Blake3.hash stream).hex
    pure s!"encoded: {tree.size} nodes, {stream.length} bytes, key {key}\n"
  | .decode source limits input raw pretty => do
    let r ← registryOf h source
    let stream ← perform (fun f => (fileTrouble f).during s!"reading {input}") (h.read input)
    let codec : Codec := { limits }
    warn (codec.decodeEvents r stream)
    let decoded ← check codecTrouble (codec.decode r stream)
    let text ← check codecTrouble (renderTree r decoded.root raw pretty)
    pure (text ++ "\n")
  | .evolve old new => do
    let older ← registryIn h old
    let newer ← registryIn h new
    check evolutionTrouble (newer.checkExtends older)
    pure s!"ok: {newer.size - older.size} kinds appended\n"
  | .exportTable source out => do
    let r ← registryOf h source
    perform (fun f => tableTrouble (.file f)) (h.saveTable r.toTable out)
    pure s!"export: {r.size} kinds -> {out}\n"

/-- What is seen of a run. Reports are given without the places of faults in JSON texts, and the help on
a command and the complaint about an improper use by their first lines. -/
structure Outcome where
  exit : UInt8
  stdout : String := ""
  stderr : String := ""
  warnings : List Event := []
deriving DecidableEq, Repr

/-- The help on the program, or what the help on a command starts with. -/
def helpText : Option String → String
  | some command => (commands.lookup command).getD "" ++ "\n"
  | none =>
    let lines := commands.map fun (name, about) => s!"  {name}" ++ "".pushn ' ' (10 - name.length) ++ s!"{about}\n"
    "Node-kind registry and syntax tree stream codec\n\nUsage: synreg <COMMAND>\n\nCommands:\n" ++
      String.join lines ++ "\nOptions:\n  -h, --help  Print help\n"

/-- Runs the program on its arguments. Without a command nothing is done. Who asks for help gets it and an exit
with 0, even if it cannot be printed; an improper use exits with 2. -/
def run (h : Host m) (args : List String) : m Outcome := do
  match parse args with
  | .error (.help command) =>
    let stdout := helpText command
    match ← h.print stdout with
    | .ok () => return { exit := 0, stdout }
    | .error _ => return { exit := 0 }
  | .error .improper => return { exit := 2, stderr := "error: improper use\n" }
  | .ok command =>
    let (result, warnings) ← (execute h command).run.run []
    match result with
    | .error t => return { exit := 1, stderr := t.report, warnings }
    | .ok stdout =>
      match ← h.print stdout with
      | .ok () => return { exit := 0, stdout, warnings }
      | .error f => return { exit := 101, stderr := s!"failed printing to stdout: {f.message}\n", warnings }

end SyntaxWire.CommandLine
