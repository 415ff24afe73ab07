/-
`sed`: edits lines by a script of commands, each with the lines that it is
for.
-/
import SyntaxWire.Shell.Tool.Grep

namespace SyntaxWire.Shell.Tool.Sed

/-- Which lines a command is for. -/
inductive Address where
  | line (n : Nat)
  /-- From a line on, every so many lines. -/
  | each (first step : Nat)
  | last
  | matching (r : Regex) (ignoreCase : Bool)
deriving Repr

inductive Range where
  | always
  | one (a : Address)
  | between (a b : Address)
  /-- A line, and so many more. -/
  | counted (a : Address) (n : Nat)
deriving Repr

/-- No line has the number 0. It may only stand before the first line of a range that ends with a match. -/
def Range.startsAtZero : Range → Bool
  | between (.line 0) (.matching _ _) => false
  | one (.line 0) | between (.line 0) _ | counted (.line 0) _ => true
  | _ => false

/-- A piece of what is put in place of a match. -/
inductive Piece where
  | char (c : Char)
  | group (n : Nat)
  /-- Another case for what follows: one of `U`, `L`, `u`, `l`, or `E` for none. -/
  | inCase (mode : Char)
deriving DecidableEq, Repr

inductive Verb where
  | substitute (r : Regex) (by_ : List Piece) (nth : Nat) (all prints ignoreCase : Bool)
  | transliterate (pairs : List (Char × Char))
  | print
  | printFirst
  | delete
  | deleteFirst
  | next
  | append
  | number
  | list
  | quit (prints : Bool) (status : Nat)
  | add (text : String)
  | insert (text : String)
  | replace (text : String)
  | hold (appends : Bool)
  | fetch (appends : Bool)
  | exchange
  | label (name : String)
  | jump (name : String)
  | jumpIfChanged (name : String)
  | jumpUnlessChanged (name : String)
  | block (open_ : Bool)
  | nothing
deriving Repr

structure Command where
  range : Range := .always
  negated : Bool := false
  verb : Verb
deriving Repr

/-- What is left of a script, and how many of its characters have been read. -/
structure Source where
  rest : List Char
  read : Nat := 0

/-- Reading fails with a message; the place of the fault is what has been read. -/
abbrev Reader := ExceptT String (StateM Source)

def peek? : Reader (Option Char) := do return (← get).rest.head?

def next? : Reader (Option Char) := do
  match (← get).rest with
  | [] => return none
  | c :: rest =>
    modify fun s => { rest, read := s.read + 1 }
    return some c

def skip (p : Char → Bool) : Reader Unit :=
  modify fun s =>
    let n := (s.rest.takeWhile p).length
    { rest := s.rest.drop n, read := s.read + n }

def takeWhile (p : Char → Bool) : Reader (List Char) := do
  let taken := (← get).rest.takeWhile p
  skip p
  return taken

/-- The text up to a delimiter that is not escaped. A delimiter behind a backslash loses the backslash. -/
def upTo (delimiter : Char) (fault : String) (regex : Bool) : Nat → Bool → Reader (List Char)
  | 0, _ => throw fault
  | n + 1, inBrackets => do
    match ← next? with
    | none => throw fault
    | some c =>
      if c = delimiter ∧ ¬ inBrackets then return []
      if c = '\\' then
        match ← next? with
        | none => throw fault
        | some d =>
          let rest ← upTo delimiter fault regex n inBrackets
          return if d = delimiter ∧ ¬ inBrackets then d :: rest else '\\' :: d :: rest
      let opens := regex && c = '[' && !inBrackets
      if opens then
        let more ← match (← get).rest with
          | '^' :: ']' :: _ => pure 2
          | ']' :: _ | '^' :: _ => pure 1
          | _ => pure 0
        let front := (← get).rest.take more
        modify fun s => { rest := s.rest.drop more, read := s.read + more }
        return c :: front ++ (← upTo delimiter fault regex n true)
      return c :: (← upTo delimiter fault regex n (inBrackets && c ≠ ']'))

def number? : Reader (Option Nat) := do
  let ds ← takeWhile Char.isDigit
  return if ds.isEmpty then none else some (Raw.digits 10 ds.length 0 ds).1

def regex (extended : Bool) (text : List Char) : Reader Regex :=
  match Regex.parse extended (String.ofList text) with
  | .ok r => pure r
  | .error f => throw f.message

def address? (extended : Bool) : Reader (Option Address) := do
  match ← peek? with
  | some '$' =>
    discard next?
    return some .last
  | some '/' | some '\\' =>
    let delimiter ← match ← next? with
      | some '\\' => do pure ((← next?).getD '/')
      | _ => pure '/'
    let text ← upTo delimiter "unterminated address regex" true ((← get).rest.length + 1) false
    let flags ← takeWhile fun c => c = 'I' || c = 'M'
    return some (.matching (← regex extended text) ('I' ∈ flags))
  | _ =>
    match ← number? with
    | none => return none
    | some n =>
      if (← peek?) = some '~' then
        discard next?
        return some (.each n ((← number?).getD 0))
      return some (.line n)

def range (extended : Bool) : Reader Range := do
  match ← address? extended with
  | none => return .always
  | some a =>
    skip (· = ' ')
    if (← peek?) ≠ some ',' then return .one a
    discard next?
    skip (· = ' ')
    if (← peek?) = some '+' then
      discard next?
      return .counted a ((← number?).getD 0)
    match ← address? extended with
    | some b => return .between a b
    | none =>
      discard next?
      throw "unexpected `,'"

def replacement : List Char → List Piece
  | [] => []
  | '\\' :: c :: rest =>
    if c.isDigit then .group (c.toNat - '0'.toNat) :: replacement rest
    else if c = 'n' then .char '\n' :: replacement rest
    else if c = 't' then .char '\t' :: replacement rest
    else if c ∈ ['U', 'L', 'E', 'u', 'l'] then .inCase c :: replacement rest
    else .char c :: replacement rest
  | '&' :: rest => .group 0 :: replacement rest
  | c :: rest => .char c :: replacement rest

structure Flags where
  nth : Nat := 1
  all : Bool := false
  prints : Bool := false
  ignoreCase : Bool := false

def flags (f : Flags) : Nat → Reader Flags
  | 0 => return f
  | n + 1 => do
    match ← peek? with
    | some 'g' =>
      discard next?
      if f.all then throw "multiple `g' options to `s' command"
      flags { f with all := true } n
    | some 'p' =>
      discard next?
      if f.prints then throw "multiple `p' options to `s' command"
      flags { f with prints := true } n
    | some 'i' | some 'I' =>
      discard next?
      flags { f with ignoreCase := true } n
    | some c =>
      if c.isDigit then
        let nth := (← number?).getD 0
        if nth = 0 then throw "number option to `s' command may not be zero"
        flags { f with nth } n
      else if c ∈ [';', '\n', '\x7d', '#', ' '] then return f
      else
        discard next?
        throw "unknown option to `s'"
    | none => return f

/-- The place of a character in a list of pairs; escapes are resolved. -/
def plain : List Char → List Char
  | '\\' :: 'n' :: rest => '\n' :: plain rest
  | '\\' :: '\\' :: rest => '\\' :: plain rest
  | c :: rest => c :: plain rest
  | [] => []

/-- The text of a command that adds text, up to the end of its line. -/
def addedText : Reader String := do
  skip fun c => c = ' ' || c = '\t'
  match (← get).rest with
  | [] => throw "expected \\ after `a', `c' or `i'"
  | '\\' :: _ =>
    discard next?
    skip fun c => c = ' ' || c = '\t'
    if (← peek?) = some '\n' then discard next?
  | _ => pure ()
  go ((← get).rest.length + 1)
where
  go : Nat → Reader String
    | 0 => return "\n"
    | n + 1 => do
      match ← next? with
      | none | some '\n' => return "\n"
      | some '\\' =>
        match ← next? with
        | none => return "\n"
        | some c => return String.ofList [c] ++ (← go n)
      | some c => return String.ofList [c] ++ (← go n)

/-- The end of a command. -/
def finish : Reader Unit := do
  skip (· = ' ')
  match ← peek? with
  | none | some '\x7d' | some '#' => return
  | some c =>
    discard next?
    if c ≠ ';' ∧ c ≠ '\n' then throw "extra characters after command"

def labelName : Reader String := do
  skip (· = ' ')
  return String.ofList (← takeWhile fun c => c ≠ ';' && c ≠ '\n')

def verb (extended : Bool) : Reader Verb := do
  let simple (v : Verb) : Reader Verb := do
    finish
    return v
  match ← next? with
  | none => throw "missing command"
  | some c =>
    match c with
    | '\x7b' => return .block true
    | '\x7d' => simple (.block false)
    | '#' =>
      skip (· ≠ '\n')
      return .nothing
    | ':' =>
      let name ← labelName
      if name = "" then throw "\":\" lacks a label"
      finish
      return .label name
    | 'b' => return .jump (← labelName)
    | 't' => return .jumpIfChanged (← labelName)
    | 'T' => return .jumpUnlessChanged (← labelName)
    | 'p' => simple .print
    | 'P' => simple .printFirst
    | 'd' => simple .delete
    | 'D' => simple .deleteFirst
    | 'n' => simple .next
    | 'N' => simple .append
    | 'h' => simple (.hold false)
    | 'H' => simple (.hold true)
    | 'g' => simple (.fetch false)
    | 'G' => simple (.fetch true)
    | 'x' => simple .exchange
    | '=' => simple .number
    | 'l' => simple .list
    | 'q' | 'Q' =>
      skip (· = ' ')
      let status := (← number?).getD 0
      simple (.quit (c = 'q') status)
    | 'a' => return .add (← addedText)
    | 'i' => return .insert (← addedText)
    | 'c' => return .replace (← addedText)
    | 'y' =>
      let fault := "unterminated `y' command"
      match ← next? with
      | none => throw fault
      | some delimiter =>
        let source ← upTo delimiter fault false ((← get).rest.length + 1) false
        let target ← upTo delimiter fault false ((← get).rest.length + 1) false
        if (plain source).length ≠ (plain target).length then
          throw "strings for `y' command are different lengths"
        simple (.transliterate ((plain source).zip (plain target)))
    | 's' =>
      let fault := "unterminated `s' command"
      match ← next? with
      | none => throw fault
      | some delimiter =>
        let source ← upTo delimiter fault true ((← get).rest.length + 1) false
        let target ← upTo delimiter fault false ((← get).rest.length + 1) false
        let f ← flags {} ((← get).rest.length + 1)
        let r ← regex extended source
        simple (.substitute r (replacement target) f.nth f.all f.prints f.ignoreCase)
    | c => throw ("unknown command: `" ++ String.ofList [c] ++ "'")

/-- The commands of a script; so many blocks are open. -/
def commands (extended : Bool) (opened : Nat) : Nat → Reader (List Command)
  | 0 => return []
  | n + 1 => do
    skip fun c => Raw.isSpace c || c = ';'
    if (← get).rest.isEmpty then
      if opened = 0 then return []
      modify ({ · with read := 0 })
      throw "unmatched `\x7b'"
    let range ← range extended
    skip (· = ' ')
    if range.startsAtZero then
      discard next?
      throw "invalid usage of line address 0"
    let negated := (← peek?) = some '!'
    skip fun c => c = '!' || c = ' '
    if opened = 0 ∧ (← peek?) = some '\x7d' then
      discard next?
      throw "unexpected `\x7d'"
    let v ← verb extended
    let opened := match v with
      | .block true => opened + 1
      | .block false => opened - 1
      | _ => opened
    return { range, negated, verb := v } :: (← commands extended opened n)

/-- The commands of a script, or a message. -/
def parse (extended : Bool) (text : String) : Except String (List Command) :=
  let (result, s) := (commands extended 0 (text.length + 1)).run { rest := text.toList }
  result.mapError fun why => "char " ++ toString s.read ++ ": " ++ why

/-- The label of a jump that leads nowhere. -/
def lostLabel? (script : List Command) : Option String :=
  let labels := script.filterMap fun c => match c.verb with
    | .label name => some name
    | _ => none
  script.findSome? fun c => match c.verb with
    | .jump name | .jumpIfChanged name | .jumpUnlessChanged name =>
      if name = "" ∨ name ∈ labels then none else some name
    | _ => none

/-- The state of a run. -/
structure State where
  /-- The lines that have not been read, each with its end. -/
  rest : List String
  space : String := ""
  held : String := ""
  line : Nat := 0
  /-- The line in work had an end. -/
  ended : Bool := true
  out : String := ""
  /-- Text that follows the line in work. -/
  after : String := ""
  changed : Bool := false
  /-- For each command with a range: whether the range is open, and its last line if that is known. -/
  opened : List (Nat × Option Nat) := []

namespace State

/-- Writes a line; one that had no end is given one as soon as something follows. -/
def put (s : State) (text : String) (ended : Bool) : State :=
  let out := if s.out = "" ∨ s.out.endsWith "\n" then s.out else s.out ++ "\n"
  { s with out := out ++ text ++ (if ended then "\n" else "") }

def print (s : State) : State := s.put s.space s.ended

/-- Writes the text that follows the line. -/
def flush (s : State) : State :=
  if s.after = "" then s
  else
    let out := if s.out = "" ∨ s.out.endsWith "\n" then s.out else s.out ++ "\n"
    { s with out := out ++ s.after, after := "" }

def isLast (s : State) : Bool := s.rest.isEmpty

def advance? (s : State) : Option State :=
  match s.rest with
  | [] => none
  | line :: rest =>
    some { s.flush with rest, space := Raw.withoutEnd line, ended := line.endsWith "\n", line := s.line + 1 }

end State

def Address.holds (s : State) : Address → Bool
  | line n => s.line = n
  | each first step => if step = 0 then s.line = first else first ≤ s.line && (s.line - first) % step = 0
  | last => s.isLast
  | matching r ignoreCase => (r.find? { text := s.space.toList.toArray, ignoreCase } 0).isSome

/-- Whether a command is for the line in work, and the state in which that has been noted. -/
def Range.selects (r : Range) (n : Nat) (s : State) : Bool × State :=
  let close (s : State) : State := { s with opened := s.opened.filter (·.1 ≠ n) }
  let open_ (s : State) (last : Option Nat) : State := { s with opened := (n, last) :: (close s).opened }
  match r with
  | always => (true, s)
  | one a => (a.holds s, s)
  | counted a k =>
    match s.opened.lookup n with
    | some (some last) => (true, if s.line < last then s else close s)
    | _ => if a.holds s then (true, if k = 0 then s else open_ s (some (s.line + k))) else (false, s)
  | between a b =>
    match s.opened.lookup n with
    | some _ =>
      match b with
      | .line k => if s.line < k then (true, s) else (decide (s.line = k), close s)
      | b => (true, if b.holds s then close s else s)
    | none =>
      -- Line 0 is there for a range whose end may be found in the first line.
      let early : Bool := match a with
        | .line 0 => s.line = 1
        | _ => false
      if a.holds s || early then
        match b with
        | .line k => (true, if k ≤ s.line then s else open_ s none)
        | b => (true, if early && b.holds s then s else open_ s none)
      else (false, s)

/-- Characters in the case that is wanted: `once` is for the first of them only. -/
def inCase (mode : Char) (once : Option Char) (cs : List Char) : List Char :=
  let change (mode c : Char) : Char := if mode ∈ ['U', 'u'] then c.toUpper else if mode ∈ ['L', 'l'] then c.toLower else c
  match cs, once with
  | c :: cs, some m => change m c :: cs.map (change mode)
  | cs, _ => cs.map (change mode)

/-- What is put in place of a match, given what its groups have matched. -/
def written (group : Nat → List Char) (mode : Char) (once : Option Char) : List Piece → List Char
  | [] => []
  | .inCase c :: rest => if c ∈ ['u', 'l'] then written group mode (some c) rest else written group c once rest
  | .char c :: rest => inCase mode once [c] ++ written group mode none rest
  | .group n :: rest =>
    let cs := group n
    inCase mode once cs ++ written group mode (if cs.isEmpty then once else none) rest

/-- The text with matches replaced, and whether there were any; `count` of them have been passed. -/
def replaceFrom (r : Regex) (subject : Regex.Subject) (by_ : List Piece) (nth : Nat) (all : Bool) :
    Nat → (count at_ : Nat) → (lastEnd : Option Nat) → List Char × Bool
  | 0, _, at_, _ => (subject.part at_ subject.text.size, false)
  | n + 1, count, at_, lastEnd =>
    match r.find? subject at_ (fun a b => a ≠ b || lastEnd ≠ some a) with
    | none => (subject.part at_ subject.text.size, false)
    | some (a, p) =>
      let between := subject.part at_ a
      let old := subject.part a p.at_
      let group (k : Nat) : List Char :=
        if k = 0 then old
        else match p.groups.lookup k with
          | some (x, y) => subject.part x y
          | none => []
      let hit := count + 1 = nth || (all && nth ≤ count + 1)
      let new := if hit then written group 'E' none by_ else old
      if hit ∧ ¬ all then (between ++ new ++ subject.part p.at_ subject.text.size, true)
      else
        let (rest, more) := replaceFrom r subject by_ nth all n (count + 1) p.at_ (some p.at_)
        (between ++ new ++ rest, hit || more)

/-- How a cycle of commands ends. -/
inductive Ending where
  /-- The line is written unless that is not wanted. -/
  | done
  | deleted
  /-- The commands start again on what is left of the line. -/
  | again
  | quit (prints : Bool) (status : Nat)

/-- The commands behind the block that has just been opened. -/
def behindBlock (depth : Nat) : List (Command × Nat) → List (Command × Nat)
  | [] => []
  | (c, _) :: rest =>
    match c.verb, depth with
    | .block true, depth => behindBlock (depth + 1) rest
    | .block false, 0 => rest
    | .block false, depth + 1 => behindBlock depth rest
    | _, depth => behindBlock depth rest

def labelled (name : String) (all : List (Command × Nat)) : List (Command × Nat) :=
  if name = "" then []
  else (all.dropWhile fun (c, _) => match c.verb with
    | .label l => l ≠ name
    | _ => true)

def firstLine (s : String) : String := (Raw.cut (· = '\n') s).1

/-- Runs commands on the line in work. -/
def cycle (quiet : Bool) (all : List (Command × Nat)) : Nat → List (Command × Nat) → State → Ending × State
  | 0, _, s => (.done, s)
  | _ + 1, [], s => (.done, s)
  | fuel + 1, (c, n) :: rest, s =>
    let (selected, s) := c.range.selects n s
    let on (s : State) : Ending × State := cycle quiet all fuel rest s
    if selected = c.negated then
      match c.verb with
      | .block true => cycle quiet all fuel (behindBlock 0 rest) s
      | _ => on s
    else
      match c.verb with
      | .substitute r by_ nth every prints ignoreCase =>
        let subject : Regex.Subject := { text := s.space.toList.toArray, ignoreCase }
        let (text, hit) := replaceFrom r subject by_ nth every (subject.text.size + 2) 0 0 none
        let s := if hit then { s with space := String.ofList text, changed := true } else s
        on (if hit ∧ prints then s.print else s)
      | .transliterate pairs =>
        on { s with space := String.ofList (s.space.toList.map fun c => (pairs.lookup c).getD c) }
      | .print => on s.print
      | .printFirst => on (s.put (firstLine s.space) true)
      | .delete => (.deleted, s)
      | .deleteFirst =>
        if '\n' ∈ s.space.toList then
          (.again, { s with space := String.ofList ((s.space.toList.dropWhile (· ≠ '\n')).drop 1) })
        else (.deleted, s)
      | .next =>
        if s.isLast then (.done, s)
        else
          let s := if quiet then s else s.print
          match s.advance? with
          | some s => on s
          | none => (.done, s)
      | .append =>
        let front := s.space
        match s.advance? with
        | some s => on { s with space := front ++ "\n" ++ s.space }
        | none => (.done, s)
      | .number => on (s.put (toString s.line) true)
      | .list => on (s.put (s.space ++ "$") true)
      | .quit prints status => (.quit prints status, s)
      | .add text => on { s with after := s.after ++ text }
      | .insert text => on (s.put (Raw.withoutEnd text) true)
      | .replace text =>
        let isOpen := (s.opened.lookup n).isSome
        (.deleted, if isOpen ∧ ¬ c.negated then s else s.put (Raw.withoutEnd text) true)
      | .hold appends => on { s with held := if appends then s.held ++ "\n" ++ s.space else s.space }
      | .fetch appends => on { s with space := if appends then s.space ++ "\n" ++ s.held else s.held }
      | .exchange => on { s with space := s.held, held := s.space }
      | .jump name => cycle quiet all fuel (labelled name all) s
      | .jumpIfChanged name =>
        if s.changed then cycle quiet all fuel (labelled name all) { s with changed := false } else on s
      | .jumpUnlessChanged name =>
        if s.changed then on { s with changed := false } else cycle quiet all fuel (labelled name all) s
      | .label _ | .block _ | .nothing => on s

/-- Goes through the lines; gives the status. -/
def run (quiet : Bool) (all : List (Command × Nat)) : Nat → (again : Bool) → State → State × Nat
  | 0, _, s => (s, 0)
  | fuel + 1, again, s =>
    match if again then some s else s.advance? with
    | none => (s.flush, 0)
    | some s =>
      let (ending, s) := cycle quiet all (20 * all.length + 100 * s.space.length + 1000) all { s with changed := false }
      match ending with
      | .done => run quiet all fuel false (if quiet then s.flush else s.print.flush)
      | .deleted => run quiet all fuel false s.flush
      | .again => run quiet all fuel true s.flush
      | .quit prints status =>
        let s := (if prints && !quiet then s.print else s).flush
        ({ s with out := if s.out = "" ∨ s.out.endsWith "\n" then s.out else s.out ++ "\n" }, status)

variable {m : Type → Type} [Monad m]

def runOn (quiet : Bool) (script : List Command) (text : String) : String × Nat :=
  let lines := Raw.lines text
  let (s, status) := run quiet script.zipIdx (2 * text.length + lines.length + 2) false { rest := lines }
  (s.out, status)

end Sed

variable {m : Type → Type} [Monad m]

def sedManual : Manual :=
  { usage := "Usage: sed [OPTION]... \x7bscript-only-if-no-other-script\x7d [input-file]...\n\n",
    flags := ['n', 'E', 'r', 's', 'u', 'z', 'i'], valued := ['e', 'f', 'l'],
    long := [("quiet", 'n'), ("silent", 'n'), ("expression", 'e'), ("regexp-extended", 'E'), ("in-place", 'i'),
      ("separate", 's')] }

def sed (args : List String) : Act m Nat := do
  let a ← sedManual.sort args
  let scripts ← (a.values 'f').mapM fun name => do
    match ← contents name with
    | .ok text => return Raw.withoutEnd text
    | .error f =>
      complain ("couldn't open file " ++ name ++ ": " ++ f.reason)
      Act.exit 4
  let (pieces, files) ← match a.values 'e' ++ scripts, a.others with
    | [], script :: files => pure ([script], files)
    | [], [] => do
      Act.write 2 sedManual.usage
      Act.exit 1
    | pieces, files => pure (pieces, files)
  match Sed.parse (a.has 'E' || a.has 'r') ("\n".intercalate pieces) with
  | .error why =>
    complain ("-e expression #" ++ toString pieces.length ++ ", " ++ why)
    return 1
  | .ok script =>
    if let some name := Sed.lostLabel? script then
      complain ("can't find label for jump to `" ++ name ++ "'")
      return 4
    let quiet := a.has 'n'
    let message (name : String) (f : FileFault) : String :=
      if f = .isDirectory then
        if a.has 'i' then "couldn't edit " ++ name ++ ": not a regular file" else "read error on " ++ name ++ ": " ++ f.reason
      else "can't read " ++ name ++ ": " ++ f.reason
    if a.has 'i' then
      let mut status := 0
      for name in files do
        match ← contents name with
        | .ok text =>
          let path ← Act.path name
          discard (Act.onFiles (·.writeFile path (Raw.toBytes (Sed.runOn quiet script text).1)))
        | .error f =>
          complain (message name f)
          status := 2
      return status
    for name in files do
      if let .ok .directory ← Act.kind (m := m) name then
        complain (message name .isDirectory)
        return 4
    let (text, status) ← allFiles files message 2
    let (out, quitStatus) := Sed.runOn quiet script text
    emit out
    return if quitStatus ≠ 0 then quitStatus else status

end SyntaxWire.Shell.Tool
