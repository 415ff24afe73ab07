/-
Tools that read text and write it again: whole, in part, or in another order.
-/
import SyntaxWire.Shell.Tool.Options

namespace SyntaxWire.Shell.Tool

variable {m : Type → Type} [Monad m]

def numbered (n : Nat) (line : String) : String :=
  let ds := toString n
  String.ofList (List.replicate (6 - ds.length) ' ') ++ ds ++ "\t" ++ line

/-- Characters that do not show, spelled out. -/
def spelled (c : Char) : String :=
  let low (n : Nat) : String :=
    if n < 32 then "^" ++ String.ofList [Char.ofNat (n + 64)]
    else if n = 127 then "^?"
    else String.ofList [Char.ofNat n]
  if c = '\n' ∨ c = '\t' then String.ofList [c]
  else if c.toNat < 128 then low c.toNat
  else "M-" ++ low (c.toNat - 128)

/-- The lines as `cat` shows them with its options; `n` is the number of the next line. -/
def decorated (a : Arguments) (n : Nat) (afterBlank : Bool) : List String → List String
  | [] => []
  | line :: rest =>
    let isBlank := line = "\n"
    if a.has 's' ∧ isBlank ∧ afterBlank then decorated a n true rest
    else
      let body := (Raw.withoutEnd line).toList
      let body := if a.has 'v' then (String.join (body.map spelled)).toList else body
      let shown := body.flatMap fun c => if c = '\t' ∧ a.has 'T' then ['^', 'I'] else [c]
      let ending := if line.endsWith "\n" then (if a.has 'E' then "$\n" else "\n") else ""
      let counts := (a.has 'n' && !a.has 'b') || (a.has 'b' && !isBlank)
      let text := String.ofList shown ++ ending
      (if counts then numbered n text else text) :: decorated a (if counts then n + 1 else n) isBlank rest

/-- Whether the output goes to the file that is read, behind something that is in it. -/
def readsOutput (name : String) (text : String) : Act m Bool := do
  let path ← Act.path name
  match ← Act.stream? 1 with
  | some (_, .file out _ _) => return out = path && text ≠ "" && name ≠ "-"
  | _ => return false

def cat (args : List String) : Act m Nat := do
  let a ← Manual.sort (m := m) { flags := "AbeEnstTuv".toList, long := [
    ("show-all", 'A'), ("number-nonblank", 'b'), ("show-ends", 'E'), ("number", 'n'), ("squeeze-blank", 's'),
    ("show-tabs", 'T'), ("show-nonprinting", 'v')] } args
  let extra (c : Char) (s : String) : List (Char × String) := if a.has c then s.toList.map (·, "") else []
  let a := { a with options := a.options ++ extra 'A' "vET" ++ extra 'e' "vE" ++ extra 't' "vT" }
  let plain := a.options.all (·.1 = 'u')
  if (← Act.stream? (m := m) 1).isNone then
    complain ("standard output: " ++ badStream.reason)
    return 1
  let mut status := 0
  let mut collected := ""
  for name in if a.others.isEmpty then ["-"] else a.others do
    match ← contents name with
    | .ok text =>
      if ← readsOutput name text then
        complain (Quoting.ifNeeded name ++ ": input file is output file")
        status := 1
      else if plain then emit text
      else collected := collected ++ text
    | .error f =>
      complain (Quoting.ifNeeded name ++ ": " ++ f.reason)
      if name = "-" ∧ f = badStream then complain ("closing standard input: " ++ f.reason)
      status := 1
  emit (String.join (decorated a 1 false (Raw.lines collected)))
  return status

/-- Numbers with a letter behind them that multiplies. -/
def multiples : List (String × Nat) :=
  [("", 1), ("b", 512), ("kB", 1000), ("K", 1024), ("k", 1024), ("KiB", 1024), ("MB", 1000000), ("M", 1048576),
    ("m", 1048576), ("G", 1073741824)]

/-- The sign and the size of a number of lines or bytes. -/
def amount? (s : String) : Option (Char × Nat) :=
  let (sign, cs) := match s.toList with
    | '-' :: cs => ('-', cs)
    | '+' :: cs => ('+', cs)
    | cs => (' ', cs)
  match Raw.natural? 10 cs with
  | some (n, rest) => (multiples.lookup (String.ofList rest)).map fun k => (sign, n * k)
  | none => none

/-- A file in parts: lines or characters. -/
def units (a : Arguments) (text : String) : List String :=
  if a.has 'c' then text.toList.map fun c => String.ofList [c] else Raw.lines text

/-- The old form of an option that is only a number. -/
def numberOption (args : List String) : List String :=
  match args with
  | arg :: rest =>
    match arg.toList with
    | '-' :: c :: cs => if (c :: cs).all Char.isDigit then ("-n" ++ String.ofList (c :: cs)) :: rest else args
    | _ => args
  | [] => []

/-- Shows a part of each file. `cut` takes it, given the sign and the size of the amount. -/
def section_ (cut : Char → Nat → List String → List String) (args : List String) : Act m Nat := do
  let a ← Manual.sort (m := m) { flags := ['q', 'v', 'z'], valued := ['n', 'c'], long := [
    ("lines", 'n'), ("bytes", 'c'), ("quiet", 'q'), ("silent", 'q'), ("verbose", 'v')] } (numberOption args)
  let text := ((a.value? 'c').or (a.value? 'n')).getD "10"
  match amount? text with
  | none =>
    complain ("invalid number of " ++ (if a.has 'c' then "bytes" else "lines") ++ ": " ++ Quoting.always text)
    return 1
  | some (sign, n) =>
    let files := if a.others.isEmpty then ["-"] else a.others
    let titled := a.has 'v' || (decide (1 < files.length) && !a.has 'q')
    let mut status := 0
    let mut first := true
    for name in files do
      match ← contents name with
      | .ok s =>
        if titled then
          let shown := if name = "-" then "standard input" else name
          emit ((if first then "" else "\n") ++ "==> " ++ shown ++ " <==\n")
        first := false
        emit (String.join (cut sign n (units a s)))
      | .error f =>
        let shown := Quoting.always (if name = "-" then "standard input" else name)
        complain (if f = .isDirectory then "error reading " ++ shown ++ ": " ++ f.reason
          else "cannot open " ++ shown ++ " for reading: " ++ f.reason)
        status := 1
    return status

def head (args : List String) : Act m Nat :=
  section_ (fun sign n units => if sign = '-' then units.take (units.length - n) else units.take n) args

def tail (args : List String) : Act m Nat :=
  section_ (fun sign n units => units.drop (if sign = '+' then n - 1 else units.length - n)) args

def tac (args : List String) : Act m Nat := do
  let a ← Manual.sort (m := m) {} args
  eachFile a.others (fun s => emit (String.join (Raw.lines s).reverse))
    (fun name f => if f = .isDirectory then Quoting.ifNeeded name ++ ": read error: " ++ f.reason
      else "failed to open " ++ Quoting.always name ++ " for reading: " ++ f.reason)

def rev (args : List String) : Act m Nat := do
  let a ← Manual.sort (m := m) {} args
  let turn (line : String) : String :=
    String.ofList (Raw.withoutEnd line).toList.reverse ++ (if line.endsWith "\n" then "\n" else "")
  eachFile a.others (fun s => emit (String.join ((Raw.lines s).map turn)))
    (fun name f => "cannot open " ++ name ++ ": " ++ f.reason)

def numberLines (args : List String) : Act m Nat := do
  let a ← Manual.sort (m := m) { valued := ['b'] } args
  let (text, status) ← allFiles a.others
  let all := a.value? 'b' = some "a"
  let mut n := 1
  for line in Raw.lines text do
    let line := if line.endsWith "\n" then line else line ++ "\n"
    if line = "\n" ∧ ¬ all then emit "       \n"
    else
      emit (numbered n line)
      n := n + 1
  return status

def wordCount (cs : List Char) : Nat :=
  go false cs
where
  go (inWord : Bool) : List Char → Nat
    | [] => 0
    | c :: cs =>
      if Raw.isSpace c then go false cs else (if inWord then 0 else 1) + go true cs

/-- Lines, words, characters, bytes and the length of the longest line. -/
def counts (s : String) : List Nat :=
  let cs := s.toList
  let widest := ((s.splitOn "\n").map String.length).foldl max 0
  [cs.count '\n', wordCount cs, cs.length, cs.length, widest]

def wc (args : List String) : Act m Nat := do
  let a ← Manual.sort (m := m) { flags := ['l', 'w', 'm', 'c', 'L'], long := [
    ("lines", 'l'), ("words", 'w'), ("chars", 'm'), ("bytes", 'c'), ("max-line-length", 'L')] } args
  let shown : List Bool := ['l', 'w', 'm', 'c', 'L'].map fun c => if a.options.isEmpty then decide (c ∈ ['l', 'w', 'c']) else a.has c
  let pick (ns : List Nat) : List Nat := ((ns.zip shown).filter (·.2)).map (·.1)
  let names := if a.others.isEmpty then ["-"] else a.others
  let mut results : List (String × List Nat) := []
  let mut status := 0
  let mut piped := false
  for name in names do
    if name = "-" then
      if let some (_, .pipe _) ← Act.stream? (m := m) 0 then piped := true
    match ← contents name with
    | .ok s => results := results ++ [(name, counts s)]
    | .error f =>
      complain (Quoting.ifNeeded name ++ ": " ++ f.reason)
      status := 1
      if f = .isDirectory then
        results := results ++ [(name, [0, 0, 0, 0, 0])]
        piped := true
  let total := (results.map (·.2)).foldl (fun t ns => (t.zip ns).map fun (x, y) => x + y) [0, 0, 0, 0, 0]
  let width := if names.length = 1 ∧ (shown.filter id).length = 1 then 1
    else max (toString (total.getD 3 0)).length (if piped then 7 else 1)
  let line (name : String) (ns : List Nat) : String :=
    let cells := (pick ns).map fun n => String.ofList (List.replicate (width - (toString n).length) ' ') ++ toString n
    " ".intercalate cells ++ (if a.others.isEmpty then "" else " " ++ name) ++ "\n"
  for (name, ns) in results do
    emit (line name ns)
  if 1 < names.length then emit (line "total" total)
  return status

/-- The lines without their ends. -/
def bareLines (s : String) : List String := (Raw.lines s).map Raw.withoutEnd

def withEnds (lines : List String) : String := String.join (lines.map (· ++ "\n"))

/-- The fields of a line, cut at a character or in front of blanks. -/
def keyFields (separator : Option Char) (line : String) : List String :=
  match separator with
  | some c => line.splitOn (String.ofList [c])
  | none => go [] false line.toList
where
  go (field : List Char) (inWord : Bool) : List Char → List String
    | [] => [String.ofList field.reverse]
    | c :: cs =>
      if (c = ' ' ∨ c = '\t') ∧ inWord then String.ofList field.reverse :: go [c] false cs
      else go (c :: field) (inWord || (c ≠ ' ' && c ≠ '\t')) cs

/-- The part of a line that it is sorted by. -/
def keyOf (separator : Option Char) (key : String) (line : String) : String :=
  let (start, stop) := Raw.cut (· = ',') key
  let place (s : String) : Nat := (Raw.digits 10 s.length 0 s.toList).1
  let fields := (keyFields separator line).drop (place start - 1)
  let fields := if stop = "" then fields
    else fields.take (place (String.ofList (stop.toList.drop 1)) + 1 - place start)
  let between := match separator with
    | some c => String.ofList [c]
    | none => ""
  between.intercalate fields

def numericKey (s : String) : Int :=
  match Raw.integer? 10 s.toList with
  | some (n, _) => n
  | none => 0

def sort (args : List String) : Act m Nat := do
  let k : Manual := { failure := 2, flags := "rnufbsghV".toList, valued := ['k', 't', 'o'], long := [
    ("reverse", 'r'), ("numeric-sort", 'n'), ("unique", 'u'), ("ignore-case", 'f'), ("key", 'k'),
    ("field-separator", 't'), ("output", 'o'), ("stable", 's')] }
  let a ← k.sort args
  let mut text := ""
  for name in if a.others.isEmpty then ["-"] else a.others do
    match ← contents name with
    | .ok s => text := text ++ (if s = "" ∨ s.endsWith "\n" then s else s ++ "\n")
    | .error f =>
      complain ((if f = .isDirectory then "read failed: " else "cannot read: ")
        ++ Quoting.ifNeeded name ++ ": " ++ f.reason)
      return 2
  let separator := (a.value? 't').bind (·.toList.head?)
  let keys := a.values 'k'
  let fold (s : String) : String := if a.has 'f' then s.toUpper else s
  let order (s t : String) : Ordering :=
    let one (s t : String) : Ordering := if a.has 'n' then compare (numericKey s) (numericKey t)
      else compare (fold s) (fold t)
    if keys.isEmpty then one s t
    else keys.foldl (fun o key => o.then (one (keyOf separator key s) (keyOf separator key t))) .eq
  let directed (o : Ordering) : Ordering := if a.has 'r' then o.swap else o
  let lastly (s t : String) : Ordering := if a.has 'u' ∨ a.has 's' then .eq else compare s t
  let sorted := (bareLines text).mergeSort fun s t => directed ((order s t).then (lastly s t)) != .gt
  let kept := if a.has 'u' then
      sorted.foldr (fun s rest => match rest with
        | t :: more => if order s t = .eq then s :: more else s :: rest
        | [] => [s]) []
    else sorted
  match a.value? 'o' with
  | some name =>
    let path ← Act.path name
    match ← Act.onFiles (·.writeFile path (Raw.toBytes (withEnds kept))) with
    | .ok () => return 0
    | .error f =>
      complain ("open failed: " ++ Quoting.ifNeeded name ++ ": " ++ f.reason)
      return 2
  | none =>
    emit (withEnds kept)
    return 0

/-- Neighbours that are the same, with their number. -/
def runs (same : String → String → Bool) : List String → List (String × Nat)
  | [] => []
  | s :: rest =>
    match runs same rest with
    | (t, n) :: more => if same s t then (s, n + 1) :: more else (s, 1) :: (t, n) :: more
    | [] => [(s, 1)]

def uniq (args : List String) : Act m Nat := do
  let a ← Manual.sort (m := m) { flags := ['c', 'd', 'u', 'i'], long := [
    ("count", 'c'), ("repeated", 'd'), ("unique", 'u'), ("ignore-case", 'i')] } args
  let use (s : String) : Act m Unit := do
    let same (s t : String) : Bool := if a.has 'i' then s.toLower == t.toLower else s == t
    let chosen := (runs same (bareLines s)).filter fun (_, n) =>
      (!a.has 'd' || decide (1 < n)) && (!a.has 'u' || n = 1)
    let line (s : String) (n : Nat) : String :=
      if a.has 'c' then String.ofList (List.replicate (7 - (toString n).length) ' ') ++ toString n ++ " " ++ s else s
    emit (withEnds (chosen.map fun (s, n) => line s n))
  eachFile (a.others.take 1) use

/-- The places in a list such as `1,3-5,7-`; an end of 0 is open. -/
def places? (s : String) : Option (List (Nat × Nat)) :=
  (s.splitOn ",").mapM fun piece =>
    match piece.splitOn "-" with
    | [a] => (Raw.count? a).map fun n => (n, n)
    | [a, b] =>
      if a = "" ∧ b = "" then none
      else do
        let low ← if a = "" then some 1 else Raw.count? a
        let high ← if b = "" then some 0 else Raw.count? b
        return (low, high)
    | _ => none

def cut (args : List String) : Act m Nat := do
  let k : Manual := { flags := ['s', 'n'], valued := ['d', 'f', 'c', 'b'], long := [
    ("delimiter", 'd'), ("fields", 'f'), ("characters", 'c'), ("bytes", 'b'), ("only-delimited", 's')] }
  let a ← k.sort args
  let list := ((a.value? 'f').or (a.value? 'c')).or (a.value? 'b')
  match list with
  | none => refuse k "you must specify a list of bytes, characters, or fields"
  | some list =>
    match places? list with
    | none => refuse k ("invalid " ++ (if a.has 'f' then "field value " else "byte or character position ")
        ++ Quoting.always list)
    | some ranges =>
      let chosen (n : Nat) : Bool := ranges.any fun (low, high) => low ≤ n && (high = 0 || n ≤ high)
      let pick {α : Type} (xs : List α) : List α := ((xs.zipIdx 1).filter fun (_, n) => chosen n).map (·.1)
      let delimiter := (a.value? 'd').getD "\t"
      let line (s : String) : Option String :=
        if ¬ a.has 'f' then some (String.ofList (pick s.toList))
        else
          let fields := s.splitOn delimiter
          if fields.length = 1 then (if a.has 's' then none else some s)
          else some (delimiter.intercalate (pick fields))
      eachFile a.others fun s => emit (withEnds ((bareLines s).filterMap line))

def tee (args : List String) : Act m Nat := do
  let a ← Manual.sort (m := m) { flags := ['a', 'i'], long := [("append", 'a')] } args
  let text ← match ← Act.readAll 0 with
    | .ok s => pure s
    | .error _ => pure ""
  let mut status := 0
  for name in a.others do
    match ← Act.openFile (if a.has 'a' then .append else .write) name with
    | .ok i => Act.withStreams do
        Act.connect 3 i
        Act.write 3 text
    | .error f =>
      complain (Quoting.ifNeeded name ++ ": " ++ f.reason)
      status := 1
  emit text
  return status

def paste (args : List String) : Act m Nat := do
  let a ← Manual.sort (m := m) { flags := ['s'], valued := ['d'] } args
  let mut columns : List (List String) := []
  for name in if a.others.isEmpty then ["-"] else a.others do
    match ← contents name with
    | .ok s => columns := columns ++ [bareLines s]
    | .error f =>
      complain (Quoting.ifNeeded name ++ ": " ++ f.reason)
      return 1
  let between := String.ofList (((a.value? 'd').getD "\t").toList.take 1)
  if a.has 's' then
    emit (withEnds (columns.map fun lines => between.intercalate lines))
  else
    let height := (columns.map List.length).foldl max 0
    emit (withEnds ((List.range height).map fun n => between.intercalate (columns.map fun c => c.getD n "")))
  return 0

end SyntaxWire.Shell.Tool
