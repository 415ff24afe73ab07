/-
The commands and their arguments.

    validate  [--table FILE | --table-cmd COMMAND]
    checksum  [--table FILE | --table-cmd COMMAND]
    kinds     [--table FILE | --table-cmd COMMAND] [--category CATEGORY]
    encode    [--table ...] [LIMITS] --input FILE --out FILE
    decode    [--table ...] [LIMITS] --input FILE [--raw] [--pretty]
    evolve    --old FILE --new FILE
    export    [--table ...] --out FILE
    help      [COMMAND]

LIMITS are `--max-depth N` and `--max-payload BYTES`. Options come in any
order, each at most once, with their value behind a blank or an equals sign.
`--help` or `-h` may stand wherever an option may. Arguments are read from the
left, and they ask for help if they are proper up to there. Whether something
is missing, or two options exclude each other, is looked at in the end.
-/
import SyntaxWire.Stream.Codec

namespace SyntaxWire.CommandLine

inductive TableSource where
  | builtin
  | file (path : String)
  /-- The table that a shell command prints. -/
  | generated (command : String)
deriving DecidableEq, Repr

inductive Command where
  | validate (table : TableSource)
  | checksum (table : TableSource)
  | kinds (table : TableSource) (category : Option Category)
  | encode (table : TableSource) (limits : Limits) (input out : String)
  | decode (table : TableSource) (limits : Limits) (input : String) (raw pretty : Bool)
  | evolve (old new : String)
  | exportTable (table : TableSource) (out : String)
deriving DecidableEq, Repr

/-- Why arguments spell no command. -/
inductive Refusal where
  /-- Help is asked for, on the program or on one of its commands. -/
  | help (command : Option String)
  | improper
deriving DecidableEq, Repr

/-- The options given, with the values of those that take one. -/
abbrev Options := List (String × Option String)

/-- Splits an argument that starts with two hyphens into its name and the value behind `=`. -/
def splitOption (arg : List Char) : Option (String × Option String) :=
  match arg with
  | '-' :: '-' :: c :: rest =>
    let name := (c :: rest).takeWhile (· ≠ '=')
    let value := (c :: rest).drop name.length
    some (String.ofList name, (value.head?.map fun _ => String.ofList value.tail))
  | _ => none

/-- An argument that can stand behind an option as its value. -/
def isValue (arg : String) : Bool :=
  match arg.toList with
  | '-' :: _ :: _ => false
  | _ => true

def readPath (s : String) : Option String := if s.isEmpty then none else some s

/-- A number of 64 bits, with or without a plus sign. -/
def readSize (s : String) : Option UInt64 :=
  let digits := match s.toList with
    | '+' :: cs => cs
    | cs => cs
  if digits.isEmpty || digits.any (fun c => !c.isDigit) then none
  else
    let n : Nat := digits.foldl (fun n c => 10 * n + (c.toNat - '0'.toNat)) 0
    if n < UInt64.size then some n.toUInt64 else none

/-- The value is one that the option can have. -/
def takes (name value : String) : Bool :=
  match name with
  | "max-depth" | "max-payload" => (readSize value).isSome
  | "category" => (Category.ofName? value).isSome
  | "table-cmd" => true
  | _ => (readPath value).isSome

/-- Adds an option that has not been given before. -/
def give (given : Options) (name : String) (value : Option String) : Except Refusal Options :=
  if (given.lookup name).isSome || !value.all (takes name) then .error .improper else .ok ((name, value) :: given)

/-- An argument that asks for help. Letters behind the `h` are not looked at. -/
def asksHelp (arg : String) : Bool :=
  match arg.toList with
  | '-' :: 'h' :: _ => true
  | _ => arg = "--help"

/-- Reads the options of a command that knows these `valued` ones and these `flags`. -/
def readOptions (command : String) (valued flags : List String) (given : Options) :
    List String → Except Refusal Options
  | [] => .ok given
  | arg :: rest =>
    if arg = "--" then (if rest.isEmpty then .ok given else .error .improper)
    else if asksHelp arg then .error (.help (some command))
    else match splitOption arg.toList with
      | none => .error .improper
      | some (name, some value) =>
        if name ∈ valued then do readOptions command valued flags (← give given name (some value)) rest
        else .error .improper
      | some (name, none) =>
        if name ∈ flags then do readOptions command valued flags (← give given name none) rest
        else if name ∈ valued then
          match rest with
          | [] => .error .improper
          | value :: rest =>
            if isValue value then do readOptions command valued flags (← give given name (some value)) rest
            else .error .improper
        else .error .improper

/-- The value of an option that has been given. -/
def valueOf (os : Options) (name : String) : Option String := (os.lookup name).join

/-- The value read from an option if it is given; nothing at all if it cannot be read. -/
def optionally {α : Type} (os : Options) (name : String) (read : String → Option α) : Option (Option α) :=
  match valueOf os name with
  | none => some none
  | some v => (read v).map some

def requiredPath (os : Options) (name : String) : Option String := valueOf os name >>= readPath

def readSource (os : Options) : Option TableSource := do
  match ← optionally os "table" readPath, valueOf os "table-cmd" with
  | none, none => some .builtin
  | some path, none => some (.file path)
  | none, some command => some (.generated command)
  | some _, some _ => none

def readLimits (os : Options) : Option Limits := do
  let depth ← optionally os "max-depth" readSize
  let payload ← optionally os "max-payload" readSize
  let standard : Limits := {}
  some ⟨depth.getD standard.maxDepth, payload.getD standard.maxPayload⟩

/-- The commands, and what they do. -/
def commands : List (String × String) := [
  ("validate", "Build the registry and report its size and checksum"),
  ("checksum", "Print the table checksum as hex"),
  ("kinds", "List kinds in code order"),
  ("encode", "Encode a JSON syntax tree into a stream"),
  ("decode", "Decode a stream and print the tree as JSON"),
  ("evolve", "Check that NEW only appends to OLD"),
  ("export", "Write the registry back out as a table sorted by code"),
  ("help", "Print this message or the help of the given subcommand(s)")]

/-- What `help` is asked about. -/
def helpTopic : List String → Refusal
  | [] => .help none
  | [command] => if (commands.lookup command).isSome then .help (some command) else .improper
  | _ => .improper

/-- The command that the arguments spell. -/
def parse : List String → Except Refusal Command
  | [] => .error .improper
  | name :: args =>
    let command (valued flags : List String) (make : Options → Option Command) : Except Refusal Command := do
      (make (← readOptions name valued flags [] args)).elim (.error .improper) .ok
    let source := ["table", "table-cmd"]
    let limits := ["max-depth", "max-payload"]
    match name with
    | "validate" => command source [] fun os => do
      some (.validate (← readSource os))
    | "checksum" => command source [] fun os => do
      some (.checksum (← readSource os))
    | "kinds" => command (source ++ ["category"]) [] fun os => do
      some (.kinds (← readSource os) (← optionally os "category" Category.ofName?))
    | "encode" => command (source ++ limits ++ ["input", "out"]) [] fun os => do
      some (.encode (← readSource os) (← readLimits os) (← requiredPath os "input") (← requiredPath os "out"))
    | "decode" => command (source ++ limits ++ ["input"]) ["raw", "pretty"] fun os => do
      some (.decode (← readSource os) (← readLimits os) (← requiredPath os "input")
        (os.lookup "raw").isSome (os.lookup "pretty").isSome)
    | "evolve" => command ["old", "new"] [] fun os => do
      some (.evolve (← requiredPath os "old") (← requiredPath os "new"))
    | "export" => command (source ++ ["out"]) [] fun os => do
      some (.exportTable (← readSource os) (← requiredPath os "out"))
    | "help" => .error (helpTopic args)
    | _ => .error (if asksHelp name then .help none else .improper)

end SyntaxWire.CommandLine
