/-
How tools take their arguments and report errors. Options may stand anywhere
among the other arguments, until `--` says that there are no more.
-/
import SyntaxWire.Shell.Machine
import SyntaxWire.Shell.Quoting

namespace SyntaxWire.Shell.Tool

/-- Which options a tool knows. -/
structure Manual where
  flags : List Char := []
  valued : List Char := []
  /-- Long names of options, with the letters that they stand for. -/
  long : List (String × Char) := []
  /-- The status after a faulty argument. -/
  failure : Nat := 1
  /-- What is said about the right use after a faulty option. -/
  usage : String := ""
  /-- Nothing is an option behind the first argument that is none. -/
  leading : Bool := false

/-- Arguments sorted into options and others. -/
structure Arguments where
  options : List (Char × String) := []
  others : List String := []

namespace Arguments

def has (a : Arguments) (c : Char) : Bool := (a.options.lookup c).isSome

/-- The value of an option. The last one counts. -/
def value? (a : Arguments) (c : Char) : Option String := a.options.reverse.lookup c

def values (a : Arguments) (c : Char) : List String := (a.options.filter (·.1 = c)).map (·.2)

end Arguments

variable {m : Type → Type} [Monad m]

/-- Reports something in the tool's name. -/
def complain (message : String) : Act m Unit := do
  Act.write 2 ((← Act.self).name ++ ": " ++ message ++ "\n")

/-- Complains and points to the tool's help. -/
def refuse {α : Type} (k : Manual) (message : String) : Act m α := do
  complain message
  Act.write 2 (k.usage ++ "Try '" ++ (← Act.self).name ++ " --help' for more information.\n")
  Act.exit k.failure

namespace Manual

/-- The letters of one argument, with the arguments left when a value is taken from them. -/
def letters (k : Manual) (rest : List String) : List Char → Act m (List (Char × String) × List String)
  | [] => return ([], rest)
  | c :: cs => do
    if c ∈ k.valued then
      match cs, rest with
      | [], [] => refuse k ("option requires an argument -- '" ++ String.ofList [c] ++ "'")
      | [], value :: rest => return ([(c, value)], rest)
      | cs, rest => return ([(c, String.ofList cs)], rest)
    else if c ∈ k.flags then
      let (more, rest) ← letters k rest cs
      return ((c, "") :: more, rest)
    else refuse k ("invalid option -- '" ++ String.ofList [c] ++ "'")

def longOption (k : Manual) (arg : String) (rest : List String) :
    Act m ((Char × String) × List String) := do
  let (name, value) := Raw.cut (· = '=') (String.ofList (arg.toList.drop 2))
  match k.long.lookup name with
  | none => refuse k ("unrecognized option '--" ++ name ++ "'")
  | some c =>
    if value ≠ "" then return ((c, String.ofList (value.toList.drop 1)), rest)
    if c ∉ k.valued then return ((c, ""), rest)
    match rest with
    | value :: rest => return ((c, value), rest)
    | [] => refuse k ("option '--" ++ name ++ "' requires an argument")

def sortWithin (k : Manual) : Nat → List String → Act m Arguments
  | 0, args => return { others := args }
  | n + 1, args => do
    match args with
    | [] => return {}
    | "--" :: rest => return { others := rest }
    | arg :: rest =>
      if arg.startsWith "--" then
        let (option, rest) ← k.longOption arg rest
        let a ← sortWithin k n rest
        return { a with options := option :: a.options }
      else if arg.startsWith "-" ∧ arg ≠ "-" then
        let (found, rest) ← k.letters rest (arg.toList.drop 1)
        let a ← sortWithin k n rest
        return { a with options := found ++ a.options }
      else if k.leading then return { others := args }
      else
        let a ← sortWithin k n rest
        return { a with others := arg :: a.others }

def sort (k : Manual) (args : List String) : Act m Arguments := k.sortWithin (args.length + 1) args

end Manual

/-- Writes to the output; the tool ends if that fails. -/
def emit (text : String) : Act m Unit := do
  match ← Act.write? 1 text with
  | none => return
  | some f =>
    complain ("write error: " ++ f.reason)
    Act.exit 1

/-- What a file argument names: a file, or the input if it is `-`. -/
def contents (name : String) : Act m (Except FileFault String) :=
  if name = "-" then Act.readAll 0 else Act.contents name

/-- Works through files, or the input if there are none; gives 1 if one cannot be read. -/
def eachFile (names : List String) (use : String → Act m Unit)
    (message : String → FileFault → String := fun name f => Quoting.ifNeeded name ++ ": " ++ f.reason)
    (failure : Nat := 1) : Act m Nat := do
  let mut status := 0
  for name in if names.isEmpty then ["-"] else names do
    match ← contents name with
    | .ok s => use s
    | .error f =>
      complain (message name f)
      status := failure
  return status

/-- All files one after another. -/
def allFiles (names : List String)
    (message : String → FileFault → String := fun name f => Quoting.ifNeeded name ++ ": " ++ f.reason)
    (failure : Nat := 1) : Act m (String × Nat) := do
  let mut text := ""
  let mut status := 0
  for name in if names.isEmpty then ["-"] else names do
    match ← contents name with
    | .ok s => text := text ++ s
    | .error f =>
      complain (message name f)
      status := failure
  return (text, status)

end SyntaxWire.Shell.Tool
