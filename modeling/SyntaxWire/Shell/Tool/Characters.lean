/-
Tools that change single characters or make up text: `tr`, `seq`, `echo` and
the like.
-/
import SyntaxWire.Shell.Format
import SyntaxWire.Shell.Pattern
import SyntaxWire.Shell.Tool.Files
import SyntaxWire.Shell.Tool.Lines

namespace SyntaxWire.Shell.Tool

variable {m : Type → Type} [Monad m]

/-- The characters from one to another. -/
def between (a b : Char) : List Char :=
  (List.range (b.toNat + 1 - a.toNat)).map fun n => Char.ofNat (a.toNat + n)

/-- One character of a set, with its escapes resolved. -/
def setChar (cs : List Char) : Option (Char × List Char) :=
  match cs with
  | [] => none
  | '\\' :: rest =>
    if rest.isEmpty then some ('\\', [])
    else
      let (c, after) := Format.escape rest
      -- A backslash in front of a character that it does not change is left out.
      if c = '\\' ∧ rest.head? ≠ some '\\' then rest.head?.map (·, rest.drop 1) else some (c, after)
  | c :: rest => some (c, rest)

/-- The characters of a set in their order; ranges and classes are written out. -/
def charSet : Nat → List Char → List Char
  | 0, _ | _, [] => []
  | n + 1, '[' :: ':' :: rest =>
    match Pattern.classAt? (':' :: rest) with
    | some (ranges, after) =>
      let all := ranges.flatMap fun (a, b) => between a b
      all.mergeSort (fun a b => decide (a ≤ b)) ++ charSet n after
    | none => '[' :: charSet n (':' :: rest)
  | n + 1, cs =>
    match setChar cs with
    | none => []
    | some (c, '-' :: rest) =>
      match setChar rest with
      | some (d, after) => between c d ++ charSet n after
      | none => [c, '-']
    | some (c, rest) => c :: charSet n rest

/-- Leaves one of each row of equal characters that are in the set. -/
def squeeze (set_ : Char → Bool) : Option Char → List Char → List Char
  | _, [] => []
  | last, c :: cs => if last = some c ∧ set_ c then squeeze set_ last cs else c :: squeeze set_ (some c) cs

def tr (args : List String) : Act m Nat := do
  let k : Manual := { flags := ['c', 'C', 'd', 's', 't'], long := [
    ("complement", 'c'), ("delete", 'd'), ("squeeze-repeats", 's'), ("truncate-set1", 't')] }
  let a ← k.sort args
  let deletes := a.has 'd'
  let squeezes := a.has 's'
  let set_ (s : String) : List Char := charSet (s.length + 1) s.toList
  match a.others with
  | [] => refuse k "missing operand"
  | first :: rest =>
    let message := "missing operand after " ++ Quoting.always first
    if rest.isEmpty ∧ deletes = squeezes then
      complain message
      Act.write 2 (if deletes then "Two strings must be given when both deleting and squeezing repeats.\n"
        else "Two strings must be given when translating.\n")
      Act.write 2 "Try 'tr --help' for more information.\n"
      return 1
    if let extra :: _ := rest.drop (if deletes ∧ ¬ squeezes then 0 else 1) then
      complain ("extra operand " ++ Quoting.always extra)
      if deletes ∧ ¬ squeezes then
        Act.write 2 "Only one string may be given when deleting without squeezing repeats.\n"
      Act.write 2 "Try 'tr --help' for more information.\n"
      return 1
    let one := set_ first
    let complemented := a.has 'c' || a.has 'C'
    let one := if complemented then (between '\x00' '\xff').filter (· ∉ one) else one
    let two := (rest.head?.map set_).getD []
    let text ← match ← Act.readAll 0 with
      | .ok s => pure s
      | .error f => do
        complain ("read error: " ++ f.reason)
        Act.exit 1
    let cs := text.toList
    let cs := if deletes then cs.filter (· ∉ one)
      else if rest.isEmpty then cs
      else
        match two.getLast? with
        | none => cs
        | some final =>
          let pairs := one.zipIdx.map fun (c, n) => (c, two.getD n final)
          cs.map fun c => (pairs.reverse.lookup c).getD c
    let cs := if squeezes then
        let kept := if rest.isEmpty then one else two
        squeeze (· ∈ kept) none cs
      else cs
    emit (String.ofList cs)
    return 0

/-- `echo` as a tool: escapes mean something only if that is asked for. -/
def echo : (newline escapes : Bool) → List String → Act m Nat
  | newline, escapes, arg :: rest =>
    match arg.toList with
    | '-' :: c :: cs =>
      if (c :: cs).all (· ∈ ['n', 'e', 'E']) then
        let escapes := (c :: cs).foldl (fun e c => if c = 'e' then true else if c = 'E' then false else e) escapes
        echo (newline && 'n' ∉ c :: cs) escapes rest
      else finish newline escapes (arg :: rest)
    | _ => finish newline escapes (arg :: rest)
  | newline, escapes, [] => finish newline escapes []
where
  finish (newline escapes : Bool) (args : List String) : Act m Nat := do
    let text := " ".intercalate args
    let (text, stops) := if escapes then Format.unescape text else (text.toList, false)
    emit (String.ofList text ++ if newline ∧ ¬ stops then "\n" else "")
    return 0

/-- `printf` as a tool. -/
def printf (args : List String) : Act m Nat := do
  match if args.head? = some "--" then args.drop 1 else args with
  | [] => refuse {} "missing operand"
  | form :: args =>
    let (done, fatal) := Format.printf form args
    for c in done.complaints do
      complain <| match c with
        | .noNumber arg => Quoting.always arg ++ ": expected a numeric value"
        | .moreThanNumber arg => Quoting.always arg ++ ": value not completely converted"
        | .outOfRange arg => Quoting.always arg ++ ": Numerical result out of range"
    emit (String.ofList done.out)
    match fatal with
    | some message =>
      complain message
      return 1
    | none => return if done.complaints.isEmpty then 0 else 1

def integerArgument (k : Manual) (s : String) : Act m Int := do
  match Raw.integer? 10 s.toList with
  | some (n, []) => return n
  | _ => refuse k ("invalid floating point argument: " ++ Quoting.always s)

/-- The numbers from one to another in steps. -/
def progression (first step last : Int) : Nat → List Int
  | 0 => []
  | n + 1 =>
    if (0 < step ∧ last < first) ∨ (step < 0 ∧ first < last) then []
    else first :: progression (first + step) step last n

def seq (args : List String) : Act m Nat := do
  let k : Manual := { flags := ['w'], valued := ['s', 'f'], long := [
    ("separator", 's'), ("equal-width", 'w')] }
  -- A number below zero is no option.
  let isNumber (s : String) : Bool := match s.toList with
    | '-' :: c :: _ => c.isDigit
    | _ => false
  let (front, numbers) := (args.takeWhile fun s => !isNumber s, args.dropWhile fun s => !isNumber s)
  let a ← k.sort front
  let ns ← (a.others ++ numbers).mapM (integerArgument k)
  let (first, step, last) ← match ns with
    | [] => refuse k "missing operand"
    | [last] => pure (1, 1, last)
    | [first, last] => pure (first, 1, last)
    | [first, step, last] => pure (first, step, last)
    | _ => refuse k ("extra operand " ++ Quoting.always ((a.others ++ numbers).getD 3 ""))
  if step = 0 then refuse k "invalid Zero increment value: '0'"
  let texts := (progression first step last ((last - first).natAbs / step.natAbs + 2)).map toString
  let width := (texts.map String.length).foldl max 0
  let texts := if a.has 'w' then
      texts.map fun s => String.ofList (List.replicate (width - s.length) '0') ++ s
    else texts
  if ¬ texts.isEmpty then emit (((a.value? 's').getD "\n").intercalate texts ++ "\n")
  return 0

def sleep (args : List String) : Act m Nat := do
  let k : Manual := {}
  let a ← k.sort args
  if a.others.isEmpty then refuse k "missing operand"
  for s in a.others do
    let good : Bool := match Format.real? s.toList with
      | some r => 0 ≤ r.value && r.rest ∈ [[], ['s'], ['m'], ['h'], ['d']]
      | none => false
    if ¬ good then refuse k ("invalid time interval " ++ Quoting.always s)
  return 0

def basename (args : List String) : Act m Nat := do
  let k : Manual := { flags := ['a', 'z'], valued := ['s'] }
  let a ← k.sort args
  let strip (name ending : String) : String :=
    if ending ≠ "" ∧ name ≠ ending ∧ name.endsWith ending then
      String.ofList (name.toList.take (name.length - ending.length))
    else name
  if a.has 'a' ∨ a.has 's' then
    emit (withEnds (a.others.map fun s => strip (lastName s) ((a.value? 's').getD "")))
    return 0
  match a.others with
  | [] => refuse k "missing operand"
  | [path] => emit (lastName path ++ "\n")
  | [path, ending] => emit (strip (lastName path) ending ++ "\n")
  | _ :: _ :: extra :: _ => refuse k ("extra operand " ++ Quoting.always extra)
  return 0

def dirname (args : List String) : Act m Nat := do
  let k : Manual := { flags := ['z'] }
  let a ← k.sort args
  if a.others.isEmpty then refuse k "missing operand"
  emit (withEnds (a.others.map directoryName))
  return 0

def base64Letters : List Char :=
  between 'A' 'Z' ++ between 'a' 'z' ++ between '0' '9' ++ ['+', '/']

/-- Three bytes as four letters. -/
def base64 : List Char → List Char
  | a :: b :: c :: rest => group a.toNat b.toNat c.toNat ++ base64 rest
  | [a, b] => (group a.toNat b.toNat 0).take 3 ++ ['=']
  | [a] => (group a.toNat 0 0).take 2 ++ ['=', '=']
  | [] => []
where
  group (a b c : Nat) : List Char :=
    let n := 65536 * a + 256 * b + c
    [n / 262144, n / 4096, n / 64, n].map fun k => base64Letters.getD (k % 64) 'A'

/-- The bytes of four letters each; nothing if there are others. -/
def ofBase64? : List Char → Option (List Char)
  | [] => some []
  | a :: b :: c :: d :: rest => do
    let x ← base64Letters.idxOf? a
    let y ← base64Letters.idxOf? b
    let z ← if c = '=' then some 0 else base64Letters.idxOf? c
    let w ← if d = '=' then some 0 else base64Letters.idxOf? d
    let n := 262144 * x + 4096 * y + 64 * z + w
    let all := [n / 65536, n / 256, n].map fun k => Char.ofNat (k % 256)
    let kept := if c = '=' then all.take 1 else if d = '=' then all.take 2 else all
    return kept ++ (← ofBase64? rest)
  | _ => none

/-- A text broken into lines of a width. -/
def wrapped (width : Nat) : Nat → List Char → List Char
  | 0, _ | _, [] => []
  | n + 1, cs => cs.take width ++ '\n' :: wrapped width n (cs.drop width)

def base64Tool (args : List String) : Act m Nat := do
  let k : Manual := { flags := ['d', 'i'], valued := ['w'], long := [
    ("decode", 'd'), ("wrap", 'w'), ("ignore-garbage", 'i')] }
  let a ← k.sort args
  let (text, status) ← allFiles (a.others.take 1)
  if status ≠ 0 then return status
  if a.has 'd' then
    match ofBase64? (text.toList.filter (· ≠ '\n')) with
    | some cs =>
      emit (String.ofList cs)
      return 0
    | none =>
      complain "invalid input"
      return 1
  let width := ((a.value? 'w').bind Raw.count?).getD 76
  let cs := base64 text.toList
  emit (String.ofList (if width = 0 then cs else wrapped width (cs.length + 1) cs))
  return 0

/-- `yes` writes for as long as someone reads; what is read is no more than a pipe holds. -/
def yes (args : List String) : Act m Nat := do
  let line := (if args.isEmpty then "y" else " ".intercalate args) ++ "\n"
  emit (String.join (List.replicate (65536 / line.length + 1) line))
  return 0

end SyntaxWire.Shell.Tool
