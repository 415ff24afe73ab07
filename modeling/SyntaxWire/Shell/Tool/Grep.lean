/-
`grep`: the lines of files in which an expression matches.
-/
import SyntaxWire.Shell.Regex
import SyntaxWire.Shell.Tool.Lines

namespace SyntaxWire.Shell.Tool

variable {m : Type → Type} [Monad m]

def grepManual : Manual :=
  { failure := 2, usage := "Usage: grep [OPTION]... PATTERNS [FILE]...\n", flags := "EFGPivwxclLnoqshHraz".toList, valued := ['e', 'f', 'm', 'A', 'B', 'C'],
    long := [("extended-regexp", 'E'), ("fixed-strings", 'F'), ("ignore-case", 'i'), ("invert-match", 'v'),
      ("word-regexp", 'w'), ("line-regexp", 'x'), ("count", 'c'), ("files-with-matches", 'l'),
      ("files-without-match", 'L'), ("line-number", 'n'), ("only-matching", 'o'), ("quiet", 'q'),
      ("silent", 'q'), ("no-messages", 's'), ("no-filename", 'h'), ("with-filename", 'H'), ("regexp", 'e'),
      ("max-count", 'm')] }

/-- The matches in a line, from a place on: where each starts and ends. Empty ones are left out. -/
def matchesFrom (r : Regex) (s : Regex.Subject) (wanted : Nat → Nat → Bool) : Nat → Nat → List (Nat × Nat)
  | 0, _ => []
  | n + 1, from_ =>
    match r.find? s from_ wanted with
    | none => []
    | some (a, p) =>
      if p.at_ = a then matchesFrom r s wanted n (a + 1)
      else (a, p.at_) :: matchesFrom r s wanted n p.at_

/-- The expression that a list of patterns, a line each, stands for. -/
def anyOf (a : Arguments) (patterns : List String) : Except Regex.Fault Regex := do
  let one (p : String) : Except Regex.Fault Regex :=
    if a.has 'F' then .ok (.literally p) else Regex.parse (a.has 'E' || a.has 'P') p
  match ← patterns.mapM one with
  | [] => return .empty
  | r :: rs => return rs.foldl .either r

def grepLine (a : Arguments) (r : Regex) (line : String) : Bool × List String :=
  let s : Regex.Subject := { text := line.toList.toArray, ignoreCase := a.has 'i' }
  let wanted (x y : Nat) : Bool :=
    (!a.has 'x' || (x = 0 && y = s.text.size)) &&
      (!a.has 'w' || (!s.wordBefore x && !s.isWord y && decide (x < y)))
  let found := (r.find? s 0 wanted).isSome
  let parts := if a.has 'o' then
      (matchesFrom r s wanted (s.text.size + 2) 0).map fun (x, y) => String.ofList (s.part x y)
    else []
  (found != a.has 'v', parts)

/-- The lines to show with those around them: text, number and whether it is a hit. Gaps are left open. -/
def withContext (before after : Nat) (lines : List (String × Nat)) (hits : List Nat) :
    List (Option (String × Nat × Bool)) :=
  let shown := lines.filter fun (_, n) => hits.any fun h => h ≤ n + before && n ≤ h + after
  let rec go (last : Option Nat) : List (String × Nat) → List (Option (String × Nat × Bool))
    | [] => []
    | (line, n) :: rest =>
      let gap := match last with
        | some k => k + 1 ≠ n && 0 < before + after
        | none => false
      (if gap then [none] else []) ++ some (line, n, hits.contains n) :: go (some n) rest
  go none shown

/-- What is shown of one file, and whether it has any such line. -/
def grepText (a : Arguments) (r : Regex) (title : String) (text : String) : String × Bool :=
  let lines := (bareLines text).zipIdx 1
  let hits := lines.filterMap fun (line, n) =>
    let (hit, parts) := grepLine a r line
    if hit then some (n, parts) else none
  let hits := match (a.value? 'm').bind Raw.count? with
    | some most => hits.take most
    | none => hits
  let any := !hits.isEmpty
  let count (option : Char) : Nat := (((a.value? option).or (a.value? 'C')).bind Raw.count?).getD 0
  let lead (mark : String) (n : Nat) : String :=
    (if title = "" then "" else title ++ mark) ++ (if a.has 'n' then toString n ++ mark else "")
  let shown :=
    if a.has 'q' then ""
    else if a.has 'l' then (if any then title ++ "\n" else "")
    else if a.has 'L' then (if any then "" else title ++ "\n")
    else if a.has 'c' then (if title = "" then "" else title ++ ":") ++ toString hits.length ++ "\n"
    else if a.has 'o' then
      String.join (hits.flatMap fun (n, parts) =>
        (if a.has 'v' then [] else parts).map fun t => lead ":" n ++ t ++ "\n")
    else
      String.join ((withContext (count 'B') (count 'A') lines (hits.map (·.1))).map fun
        | some (line, n, hit) => lead (if hit then ":" else "-") n ++ line ++ "\n"
        | none => "--\n")
  (shown, any)

/-- `grep`, with options that its name stands for. -/
def grep (implied : List Char) (args : List String) : Act m Nat := do
  let a ← grepManual.sort args
  let a := { a with options := a.options ++ implied.map (·, "") }
  for option in ['A', 'B', 'C'] do
    if let some n := a.value? option then
      if (Raw.count? n).isNone then
        complain (n ++ ": invalid context length argument")
        return 2
  let (patterns, files) ← match a.values 'e', a.others with
    | [], pattern :: files => pure ([pattern], files)
    | [], [] => do
      Act.write 2 (grepManual.usage ++ "Try '" ++ (← Act.self).name ++ " --help' for more information.\n")
      Act.exit 2
    | patterns, files => pure (patterns, files)
  match anyOf a (patterns.flatMap (·.splitOn "\n")) with
  | .error f =>
    complain (f.message)
    return 2
  | .ok r =>
    let names := if files.isEmpty then ["-"] else files
    let titled := a.has 'H' || (decide (1 < names.length) && !a.has 'h')
    let mut status := 0
    let mut any := false
    for name in names do
      match ← contents name with
      | .ok text =>
        let shown := if name = "-" then "(standard input)" else name
        let title := if titled ∨ a.has 'l' ∨ a.has 'L' then shown else ""
        let (out, hit) := grepText a r title text
        emit out
        any := any || hit
      | .error f =>
        if ¬ a.has 's' then complain (name ++ ": " ++ f.reason)
        status := 2
    if any ∧ (status = 0 ∨ a.has 'q') then return 0
    return if status = 0 then 1 else status

end SyntaxWire.Shell.Tool
