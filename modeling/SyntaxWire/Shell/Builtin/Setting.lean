/-
What a shell can be told about itself: its options, its variables as `set`
shows them, and the limits of its process.
-/
import SyntaxWire.Shell.Builtin.Options

namespace SyntaxWire.Shell.Builtin

variable {m : Type → Type} [Monad m]

/-- The options of the shell by name. The last two have letters that nothing can be written with. -/
def optionNames : List (String × Char) :=
  [("errexit", 'e'), ("noglob", 'f'), ("ignoreeof", 'I'), ("interactive", 'i'), ("monitor", 'm'),
    ("noexec", 'n'), ("stdin", 's'), ("xtrace", 'x'), ("verbose", 'v'), ("vi", 'V'), ("emacs", 'E'),
    ("noclobber", 'C'), ("allexport", 'a'), ("notify", 'b'), ("nounset", 'u'), ("privileged", 'p'),
    ("nolog", '\x01'), ("debug", '\x02')]

def setOption (on : Bool) (c : Char) : Act m Unit :=
  Act.change fun p =>
    let others := p.options.filter (· ≠ c)
    { p with options := if on then others ++ [c] else others }

/-- The options and how they are set, or the commands that set them so. -/
def optionsShown (p : Process) (asCommands : Bool) : String :=
  let line : String × Char → String := fun (name, c) =>
    if asCommands then (if p.has c then "set -o " else "set +o ") ++ name ++ "\n"
    else name ++ String.ofList (List.replicate (16 - name.length) ' ') ++ (if p.has c then "on\n" else "off\n")
  (if asCommands then "" else "Current option settings\n") ++ String.join (optionNames.map line)

/--
Sets the options that the letters of an argument ask for. `o` takes a name
from the arguments behind it. Gives all letters, and the arguments left.
-/
def setLetters (refuse : String → Act m Unit) (own : List Char) (on : Bool) :
    List Char → List String → Act m (List Char × List String)
  | [], rest => return ([], rest)
  | 'o' :: cs, rest => do
    match rest with
    | [] =>
      Act.print (optionsShown (← Act.self) (!on))
      setLetters refuse own on cs []
    | name :: rest =>
      match optionNames.lookup name with
      | none =>
        refuse ("Illegal option -o " ++ name)
        return ([], rest)
      | some c =>
        setOption on c
        let (more, rest) ← setLetters refuse own on cs rest
        return (c :: more, rest)
  | c :: cs, rest => do
    if c ∉ own then
      if optionNames.any (·.2 = c) then setOption on c
      else refuse ("Illegal option -" ++ String.ofList [c])
    let (more, rest) ← setLetters refuse own on cs rest
    return (c :: more, rest)

/-- Sets options, and gives the arguments behind them, if `set` shall take them. -/
def setOptions : Nat → List String → Act m (Option (List String))
  | 0, _ => return none
  | n + 1, args => do
    match args with
    | [] => return none
    | "--" :: rest => return some rest
    | "-" :: rest =>
      setOption false 'x'
      setOption false 'v'
      return if rest.isEmpty then none else some rest
    | arg :: rest =>
      match arg.toList with
      | sign :: cs =>
        if sign ≠ '-' ∧ sign ≠ '+' then return some args
        let (_, rest) ← setLetters Act.fault [] (decide (sign = '-')) cs rest
        setOptions n rest
      | [] => return some args

/-- A value in single quotes. -/
def quote (s : String) : String := "'" ++ "'\"'\"'".intercalate (s.splitOn "'") ++ "'"

def assignments (p : Process) (lead : String) (want : Variable → Bool) : String :=
  let line (n : String) (v : Variable) : String :=
    lead ++ n ++ (match v.value with
      | some s => "=" ++ quote s
      | none => "") ++ "\n"
  let shown := (p.vars.filter fun (_, v) => want v).mergeSort fun a b => decide (a.1 ≤ b.1)
  String.join (shown.map fun (n, v) => line n v)

def set (args : List String) : Act m Nat := do
  if args.isEmpty then return ← say (assignments (← Act.self) "" (·.value.isSome))
  match ← setOptions (args.length + 1) args with
  | some args =>
    Act.change ({ · with args })
    return 0
  | none => return 0

/-- A mask in octal digits. -/
def octal? (text : String) : Option Nat := do
  let digits ← text.toList.mapM fun c =>
    if '0' ≤ c ∧ c ≤ '7' then some (c.toNat - '0'.toNat) else none
  return digits.foldl (8 * · + ·) 0

/-- `umask`: shows or sets what new files are not allowed. -/
def mask (args : List String) : Act m Nat := do
  let (flags, args) ← flagsOf ['S'] args
  let now := (← Act.self).mask
  match args with
  | [] =>
    let three := [now / 64 % 8, now / 8 % 8, now % 8]
    if flags.isEmpty then say ("0" ++ String.join (three.map toString) ++ "\n")
    else
      let allowed (n : Nat) : String :=
        (if n < 4 then "r" else "") ++ (if n / 2 % 2 = 0 then "w" else "") ++ (if n % 2 = 0 then "x" else "")
      say (",".intercalate ((["u=", "g=", "o="].zip three).map fun (who, n) => who ++ allowed n) ++ "\n")
  | text :: _ =>
    if (text.toList.head?.map Char.isDigit).getD false then
      match octal? text with
      | some n => Act.change ({ · with mask := n % 512 })
      | none => Act.fault ("Illegal number: " ++ text)
    else if ¬ text.toList.any (· ∈ ['+', '-', '=']) then Act.fault ("Illegal mode: " ++ text)
    return 0

/-- `ulimit`: shows a limit, or takes one. -/
def limit (args : List String) : Act m Nat := do
  let (flags, args) ← flagsOf "HSatfdscmlpnvwr".toList args
  match args with
  | [] =>
    match flags.getLast? with
    | some 's' => say "8192\n"
    | some 'c' | some 'r' => say "0\n"
    | _ => say "unlimited\n"
  | [text] =>
    if text ≠ "unlimited" ∧ ¬ text.toList.all Char.isDigit then Act.fault "bad number"
    return 0
  | _ => Act.fault "too many arguments"

end SyntaxWire.Shell.Builtin
