/-
What words stand for: the values of parameters, the output of commands and
the results of arithmetic are put in, unquoted values are split into fields,
and patterns become the names of files.

How a command is run comes in as `run`.
-/
import SyntaxWire.Shell.Arithmetic
import SyntaxWire.Shell.Machine
import SyntaxWire.Shell.Pattern

namespace SyntaxWire.Shell

/-- A piece of a word that is being expanded. -/
inductive Bit where
  /-- `splits` says that the character may separate fields. -/
  | char (c : Char) (quoted splits : Bool)
  /-- Makes a field even if it stays empty. -/
  | mark
  /-- The end of an argument in a list of all. -/
  | cut
  /-- A quoted list of no arguments, which makes no field. -/
  | nothing
deriving DecidableEq, Repr

namespace Bit

def glyph? : Bit → Option Glyph
  | char c quoted _ => some (c, quoted)
  | cut => some (' ', true)
  | _ => none

def ofText (quoted : Bool) (s : String) : List Bit := s.toList.map (.char · quoted (!quoted))

end Bit

/-- A field that is being filled, its characters last first. -/
structure Field where
  glyphs : List Glyph := []
  marked : Bool := false
  vanishes : Bool := false
deriving DecidableEq, Repr

def Field.isThere (f : Field) : Bool := !f.glyphs.isEmpty || (f.marked && !f.vanishes)

namespace Field

/-- The field, if it is there, in front of others. -/
def finish (f : Field) (rest : List (List Glyph)) : List (List Glyph) :=
  if f.isThere then f.glyphs.reverse :: rest else rest

/-- Cuts into fields at the characters of `separators`. Blanks among them count once, the others each time;
`afterBlank` says that a blank has just ended a field. -/
def split (separators : List Char) (f : Field) (afterBlank : Bool) : List Bit → List (List Glyph)
  | [] => f.finish []
  | .mark :: bits => split separators { f with marked := true } false bits
  | .nothing :: bits => split separators { f with vanishes := true } afterBlank bits
  | .cut :: bits => f.finish (split separators {} false bits)
  | .char c quoted splits :: bits =>
    if splits ∧ c ∈ separators then
      if c ∈ [' ', '\t', '\n'] then
        if f.isThere then f.glyphs.reverse :: split separators {} true bits
        else split separators f afterBlank bits
      else if afterBlank ∧ ¬ f.isThere then split separators {} false bits
      else f.glyphs.reverse :: split separators {} false bits
    else split separators { f with glyphs := (c, quoted) :: f.glyphs } false bits

end Field

namespace Process

def separators (p : Process) : List Char :=
  match p.vars.lookup "IFS" with
  | some { value := some s, .. } => s.toList
  | _ => [' ', '\t', '\n']

/-- The value of a parameter that is no list. -/
def parameter? (p : Process) (name : String) : Option String :=
  match name with
  | "#" => some (toString p.args.length)
  | "?" => some (toString p.status)
  | "$" => some (toString p.number)
  | "!" => p.background.map toString
  | "-" => some (String.ofList p.letters)
  | "0" => some p.name
  | "@" | "*" => if p.args.isEmpty then none else some (" ".intercalate p.args)
  | name =>
    match Raw.count? name with
    | some n => if n = 0 then some p.name else p.args[n - 1]?
    | none => p.value? name

/-- The arguments as one text, with the first separator between them. -/
def joinedArgs (p : Process) : String :=
  let between := match p.separators with
    | c :: _ => String.ofList [c]
    | [] => ""
  between.intercalate p.args

/-- All arguments, each a field of its own. -/
def argBits (p : Process) (quoted : Bool) : List Bit :=
  if p.args.isEmpty then (if quoted then [.nothing] else [])
  else
    let one (s : String) : List Bit := (if quoted then [.mark] else []) ++ Bit.ofText quoted s
    [Bit.cut].intercalate (p.args.map one)

end Process

namespace Act

variable {m : Type → Type} [Monad m] (run : Command → Act m Unit)

/-- Runs a command as a process and gives its status and its output. -/
def output (act : Act m Unit) : Act m (Nat × String) := do
  let i ← newStream (.pipe "")
  let status ← inProcess do
    connect 1 i
    act
  match (← get).streams[i]? with
  | some (.pipe held) => return (status, held)
  | _ => return (status, "")

def substitute (c : Command) : Act m String := do
  let (status, out) ← output (run c)
  change ({ · with status, substituted := status })
  return String.ofList ((out.toList.filter (· ≠ '\x00')).reverse.dropWhile (· = '\n')).reverse

def textOf (bits : List Bit) : String := String.ofList ((bits.filterMap Bit.glyph?).map (·.1))

/-- The value of an arithmetic expression; the variables in it get their values. -/
def compute (text : String) : Act m Int := do
  let p ← self
  let values := p.vars.filterMap fun (n, v) => v.value.map (n, ·)
  match Arithmetic.evaluate values text with
  | .error f => fault (f.message text)
  | .ok (n, changed) =>
    for (name, n) in changed.reverse do
      setVariable name (toString n)
    return n

/-- A home directory in place of the tilde and the name of a user at the front of a word. -/
def withHome (w : Word) : Act m Word := do
  match w with
  | .char '~' :: rest =>
    let inName : Part → Bool
      | .char c => c ≠ '/'
      | _ => false
    let user := rest.takeWhile inName
    let after := rest.drop user.length
    let ends : Bool := match after.head? with
      | none | some (.char '/') => true
      | _ => false
    let directory ← if ¬ ends then pure none
      else match Word.unquoted user with
        | "" => value? "HOME"
        | "root" => pure (some "/root")
        | _ => pure none
    match directory with
    | some dir => return dir.toList.map Part.kept ++ after
    | none => return w
  | w => return w

/-- The bits of a word. The number bounds how deep words stand inside one another. -/
def bits : Nat → Word → Act m (List Bit)
  | 0, _ => overrun
  | n + 1, w => do
    let pieces ← w.mapM fun
      | .char c => return [.char c false false]
      | .kept c => return [.char c true false]
      | .mark => return [.mark]
      | .substitution c quoted => return Bit.ofText quoted (← substitute run c)
      | .arithmetic e quoted => do
        let text := textOf (← bits n e)
        return Bit.ofText quoted (toString (← compute text))
      | .parameter name change argument quoted => do
        let p ← self
        let value := p.parameter? name
        let missing (null : Bool) : Bool := value.isNone || (null && value = some "")
        let splitting (bs : List Bit) : List Bit := bs.map fun
          | .char c false _ => .char c false true
          | b => b
        let plain : List Bit := match name with
          | "@" => p.argBits quoted
          | "*" => if quoted then Bit.ofText true p.joinedArgs else p.argBits false
          | _ => Bit.ofText quoted (value.getD "")
        let known : Act m Unit := do
          if value.isNone ∧ p.has 'u' ∧ name ∉ ["@", "*"] then fault (name ++ ": parameter not set")
        match change with
        | .plain => do
          known
          return plain
        | .length => do
          known
          return Bit.ofText quoted (toString (value.getD "").length)
        | .default null =>
          if missing null then return splitting (← bits n (← withHome argument)) else return plain
        | .instead null =>
          if missing null then return (if quoted ∧ name = "@" then [.nothing] else [])
          else return splitting (← bits n (← withHome argument))
        | .assign null => do
          if ¬ missing null then return plain
          let text := textOf (← bits n (← withHome argument))
          if ¬ Raw.isName name then fault (name ++ ": bad variable name")
          setVariable name text
          return Bit.ofText quoted text
        | .require null => do
          if ¬ missing null then return plain
          let usual := if null then "parameter not set or null" else "parameter not set"
          let text ← if argument.isEmpty then pure usual else do pure (textOf (← bits n argument))
          fault (name ++ ": " ++ text)
        | .cutFront longest => do
          known
          let pattern := Pattern.ofGlyphs ((← bits n argument).filterMap Bit.glyph?)
          return Bit.ofText quoted (String.ofList (pattern.cutFront longest (value.getD "").toList))
        | .cutEnd longest => do
          known
          let pattern := Pattern.ofGlyphs ((← bits n argument).filterMap Bit.glyph?)
          return Bit.ofText quoted (String.ofList (pattern.cutEnd longest (value.getD "").toList))
        | .bad => fault "Bad substitution"
    return pieces.flatten

/-- A word as one text. -/
def text (n : Nat) (w : Word) : Act m String := do return textOf (← bits run n (← withHome w))

def pattern (n : Nat) (w : Word) : Act m Pattern := do
  return Pattern.ofGlyphs ((← bits run n (← withHome w)).filterMap Bit.glyph?)

/-- The names in a directory that a pattern accepts. One that starts with a point has to be asked for as such. -/
def namesIn (directory : String) (p : Pattern) : Act m (List String) := do
  let path ← path directory
  let names ← onFiles (·.entries path)
  let hidden := p.head? = some (.char '.')
  let all := if hidden then "." :: ".." :: names.map Raw.ofText else names.map Raw.ofText
  return all.filter fun s => p.accepts s.toList && (hidden || !s.startsWith ".")

/-- The files whose names a list of patterns accepts, below `front`. -/
def filesFrom (front : String) : List (List Glyph) → Act m (List String)
  | [] => return [front]
  | gs :: rest => do
    let p := Pattern.ofGlyphs gs
    let literal := String.ofList (gs.map (·.1))
    let names ← if p.isOpen then namesIn (if front = "" then "." else front) p else pure [literal]
    let found ← names.mapM fun name => do
      let whole := front ++ name
      if rest.isEmpty then
        match ← kind (if whole = "" then "." else whole) with
        | .ok _ => return [whole]
        | .error _ => return []
      else filesFrom (whole ++ "/") rest
    return found.flatten

def componentsOf : List Glyph → List (List Glyph)
  | [] => [[]]
  | (c, quoted) :: gs =>
    if c = '/' then [] :: componentsOf gs
    else
      match componentsOf gs with
      | [] => [[(c, quoted)]]
      | g :: rest => ((c, quoted) :: g) :: rest

/-- The names of the files that a field stands for, or the field itself. -/
def glob (gs : List Glyph) : Act m (List String) := do
  let literal := String.ofList (gs.map (·.1))
  if (← self).has 'f' ∨ ¬ (Pattern.ofGlyphs gs).isOpen then return [literal]
  let names ← filesFrom "" (componentsOf gs)
  return if names.isEmpty then [literal] else names.mergeSort (fun a b => decide (a ≤ b))

/-- The fields that a word makes. -/
def fields (n : Nat) (w : Word) : Act m (List String) := do
  let bs ← bits run n (← withHome w)
  let found := Field.split (← self).separators {} false bs
  return (← found.mapM glob).flatten

end Act

end SyntaxWire.Shell
