/-
Regular expressions, in the basic and the extended spelling.

A match is searched for at each place in turn; of those at one place the
longest counts, and among equal ones the first that is found when every
repetition takes as much as it can.
-/
import SyntaxWire.Shell.Pattern

namespace SyntaxWire.Shell

inductive Regex where
  | empty
  | char (c : Char)
  | anyChar
  | oneOf (negated : Bool) (ranges : List (Char × Char))
  | start
  | finish
  /-- Between a character of a word and one that is of none, or not so. -/
  | border (there : Bool)
  | wordStart
  | wordEnd
  | both (a b : Regex)
  | either (a b : Regex)
  | repeated (r : Regex) (least : Nat) (most : Option Nat)
  | group (n : Nat) (r : Regex)
  /-- The text that a group has matched. -/
  | same (n : Nat)
deriving DecidableEq, Repr

namespace Regex

/-- A place in a text, with the parts that groups have matched. -/
structure Place where
  at_ : Nat
  groups : List (Nat × Nat × Nat) := []
deriving DecidableEq, Repr

structure Subject where
  text : Array Char
  ignoreCase : Bool := false

namespace Subject

def isWord (s : Subject) (n : Nat) : Bool := (s.text[n]?.map Raw.isNameChar).getD false

def wordBefore (s : Subject) (n : Nat) : Bool := n ≠ 0 && s.isWord (n - 1)

def equal (s : Subject) (c d : Char) : Bool := c = d || (s.ignoreCase && c.toLower = d.toLower)

/-- The places one character on, if that character is accepted. -/
def step (s : Subject) (p : Place) (accepts : Char → Bool) : List Place :=
  match s.text[p.at_]? with
  | some c =>
    if accepts c || (s.ignoreCase && (accepts c.toLower || accepts c.toUpper)) then [{ p with at_ := p.at_ + 1 }]
    else []
  | none => []

def part (s : Subject) (a b : Nat) : List Char := (s.text.extract a b).toList

end Subject

/-- The places that repeated steps lead to, those with more steps first. -/
def repeatFrom (step : Place → List Place) : Nat → (least : Nat) → (most : Option Nat) → Place → List Place
  | 0, least, _, p => if least = 0 then [p] else []
  | n + 1, least, most, p =>
    let further := if most = some 0 then [] else
      (((step p).filter fun q => q.at_ ≠ p.at_ || least ≠ 0).flatMap
        (repeatFrom step n (least - 1) (most.map (· - 1))))
    (further ++ if least = 0 then [p] else []).eraseDups

/-- The places at which a match that starts at a place may end. -/
def ends (s : Subject) : Regex → Place → List Place
  | empty, p => [p]
  | char c, p => s.step p (s.equal c)
  | anyChar, p => s.step p fun _ => true
  | oneOf negated ranges, p =>
    match s.text[p.at_]? with
    | none => []
    | some c =>
      let within (c : Char) : Bool := ranges.any fun (a, b) => a ≤ c && c ≤ b
      if (within c || (s.ignoreCase && (within c.toLower || within c.toUpper))) != negated then
        [{ p with at_ := p.at_ + 1 }]
      else []
  | start, p => if p.at_ = 0 then [p] else []
  | finish, p => if p.at_ = s.text.size then [p] else []
  | border there, p => if (s.wordBefore p.at_ != s.isWord p.at_) = there then [p] else []
  | wordStart, p => if !s.wordBefore p.at_ && s.isWord p.at_ then [p] else []
  | wordEnd, p => if s.wordBefore p.at_ && !s.isWord p.at_ then [p] else []
  | both a b, p => ((ends s a p).flatMap (ends s b)).eraseDups
  | either a b, p => (ends s a p ++ ends s b p).eraseDups
  | repeated r least most, p => repeatFrom (ends s r) (s.text.size + least + 1) least most p
  | group n r, p =>
    (ends s r p).map fun q => { q with groups := (n, p.at_, q.at_) :: q.groups.filter (·.1 ≠ n) }
  | same n, p =>
    match p.groups.lookup n with
    | none => []
    | some (a, b) =>
      let want := s.part a b
      let have_ := s.part p.at_ (p.at_ + want.length)
      if want.length = have_.length ∧ (want.zip have_).all fun (c, d) => s.equal c d then
        [{ p with at_ := p.at_ + want.length }]
      else []

/-- The longest match at a place of those that are wanted: its end and its groups. -/
def longestAt (r : Regex) (s : Subject) (wanted : Nat → Nat → Bool) (n : Nat) : Option Place :=
  ((ends s r ⟨n, []⟩).filter fun q => wanted n q.at_).foldl (fun best q => match best with
    | some b => if b.at_ < q.at_ then some q else some b
    | none => some q) none

/-- The first match from a place on: its start, its end and its groups. -/
def find? (r : Regex) (s : Subject) (from_ : Nat) (wanted : Nat → Nat → Bool := fun _ _ => true) :
    Option (Nat × Place) :=
  ((List.range (s.text.size + 1)).drop from_).findSome? fun n => (longestAt r s wanted n).map (n, ·)

inductive Fault where
  /-- A bracket with nothing behind it. -/
  | emptyBracket
  | unmatchedBracket
  | unmatchedOpen
  | unmatchedClose
  | unmatchedBrace
  | badRepetition
  | badReference
  | trailingBackslash
deriving DecidableEq, Repr

def Fault.message : Fault → String
  | emptyBracket => "Invalid regular expression"
  | unmatchedBracket => "Unmatched [, [^, [:, [., or [="
  | unmatchedOpen => "Unmatched ( or \\("
  | unmatchedClose => "Unmatched ) or \\)"
  | unmatchedBrace => "Unmatched \\\x7b"
  | badRepetition => "Invalid preceding regular expression"
  | badReference => "Invalid back reference"
  | trailingBackslash => "Trailing backslash"

/-- What is left of the spelling, and the number of groups so far. -/
structure Spelling where
  rest : List Char
  groups : Nat := 0

abbrev Reader := StateT Spelling (Except Fault)

/-- The inside of brackets, as ranges, and what follows them. -/
def ranges? (first : Bool) : Nat → List Char → Option (List (Char × Char) × List Char)
  | 0, _ | _, [] => none
  | n + 1, ']' :: rest => if first then item n ']' rest else some ([], rest)
  | n + 1, '[' :: ':' :: rest =>
    match Pattern.classAt? (':' :: rest) with
    | some (rs, rest) => (ranges? false n rest).map fun (more, rest) => (rs ++ more, rest)
    | none => item n '[' (':' :: rest)
  | n + 1, '\\' :: 'n' :: rest => (ranges? false n rest).map fun (more, rest) => (('\n', '\n') :: more, rest)
  | n + 1, '\\' :: 't' :: rest => (ranges? false n rest).map fun (more, rest) => (('\t', '\t') :: more, rest)
  | n + 1, c :: rest => item n c rest
where
  item (n : Nat) (c : Char) : List Char → Option (List (Char × Char) × List Char)
    | '-' :: d :: rest =>
      if d = ']' then (ranges? false n ('-' :: d :: rest)).map fun (more, rest) => ((c, c) :: more, rest)
      else (ranges? false n rest).map fun (more, rest) => ((c, d) :: more, rest)
    | rest => (ranges? false n rest).map fun (more, rest) => ((c, c) :: more, rest)

/-- A count of repetitions in braces and what follows it. -/
def count? (extended : Bool) (cs : List Char) : Option ((Nat × Option Nat) × List Char) :=
  let close (cs : List Char) : Option (List Char) :=
    match cs, extended with
    | '\x7d' :: rest, true => some rest
    | '\\' :: '\x7d' :: rest, false => some rest
    | _, _ => none
  let least := (Raw.digits 10 cs.length 0 cs)
  match least.2 with
  | ',' :: rest =>
    let most := Raw.digits 10 rest.length 0 rest
    let bounded := most.2.length < rest.length
    (close most.2).map fun after => ((least.1, if bounded then some most.1 else none), after)
  | rest => (close rest).map fun after => ((least.1, some least.1), after)

/-- Repetitions behind a piece. -/
def repetitions (extended : Bool) : Nat → Regex → Reader Regex
  | 0, r => return r
  | n + 1, r => do
    let s ← get
    let go (least : Nat) (most : Option Nat) (rest : List Char) : Reader Regex := do
      set { s with rest }
      repetitions extended n (.repeated r least most)
    match s.rest, extended with
    | '*' :: rest, _ => go 0 none rest
    | '+' :: rest, true | '\\' :: '+' :: rest, false => go 1 none rest
    | '?' :: rest, true | '\\' :: '?' :: rest, false => go 0 (some 1) rest
    | '\x7b' :: rest, true =>
      match count? true rest with
      | some ((least, most), rest) => go least most rest
      | none => return r
    | '\\' :: '\x7b' :: rest, false =>
      match count? false rest with
      | some ((least, most), rest) => go least most rest
      | none => throw .unmatchedBrace
    | _, _ => return r

def wordRanges : List (Char × Char) := [('a', 'z'), ('A', 'Z'), ('0', '9'), ('_', '_')]

def blankRanges : List (Char × Char) := [(' ', ' '), ('\t', '\r')]

/-- What a backslash makes of the character behind it. -/
def escaped (c : Char) : Reader Regex :=
  match c with
  | 'n' => pure (.char '\n')
  | 't' => pure (.char '\t')
  | 'w' => pure (.oneOf false wordRanges)
  | 'W' => pure (.oneOf true wordRanges)
  | 's' => pure (.oneOf false blankRanges)
  | 'S' => pure (.oneOf true blankRanges)
  | 'b' => pure (.border true)
  | 'B' => pure (.border false)
  | '<' => pure .wordStart
  | '>' => pure .wordEnd
  | '\x60' => pure .start
  | '\'' => pure .finish
  | c => do
    if c.isDigit ∧ c ≠ '0' then
      let n := c.toNat - '0'.toNat
      if (← get).groups < n then throw .badReference
      return .same n
    return .char c

/-- Whether an alternative ends in front of the text. -/
def endsBranch (extended : Bool) (cs : List Char) : Bool :=
  match cs, extended with
  | [], _ | '|' :: _, true | ')' :: _, true | '\\' :: '|' :: _, false | '\\' :: ')' :: _, false => true
  | _, _ => false

def take (rest : List Char) : Reader Unit := modify ({ · with rest })

/-- A group, of which the opening parenthesis has been read. -/
def grouped (whole : Reader Regex) (extended : Bool) : Reader Regex := do
  let n := (← get).groups + 1
  modify ({ · with groups := n })
  let r ← whole
  match (← get).rest, extended with
  | ')' :: rest, true | '\\' :: ')' :: rest, false =>
    take rest
    return .group n r
  | _, _ => throw .unmatchedOpen

/-- One piece without its repetitions; `first` says that it begins an alternative. -/
def piece (whole : Reader Regex) (extended first : Bool) : Reader Regex := do
  match (← get).rest with
  | [] => return .empty
  | c :: rest =>
    take rest
    match c with
    | '.' => return .anyChar
    | '[' =>
      let (negated, inside) := match rest with
        | '^' :: rest => (true, rest)
        | rest => (false, rest)
      match ranges? true (inside.length + 1) inside with
      | some (rs, rest) =>
        take rest
        return .oneOf negated rs
      | none => throw (if inside.isEmpty then .emptyBracket else .unmatchedBracket)
    | '^' => return if extended ∨ first then .start else .char '^'
    | '$' => return if extended ∨ endsBranch extended rest then .finish else .char '$'
    | '(' => if extended then grouped whole extended else return .char '('
    | '\\' =>
      match rest with
      | [] => throw .trailingBackslash
      | d :: rest =>
        take rest
        if d = '(' ∧ ¬ extended then grouped whole extended else escaped d
    | c =>
      if extended ∧ first ∧ c ∈ ['*', '+', '?'] then throw .badRepetition
      return .char c

/-- Pieces up to the end of an alternative. -/
def branch (whole : Reader Regex) (extended : Bool) : Nat → Bool → Reader Regex
  | 0, _ => return .empty
  | n + 1, first => do
    if endsBranch extended (← get).rest then return .empty
    let r ← piece whole extended first
    let isAnchor := r = .start
    let r ← if isAnchor ∧ ¬ extended then pure r else repetitions extended ((← get).rest.length + 1) r
    return .both r (← branch whole extended n (first && isAnchor && !extended))

def alternatives (whole : Reader Regex) (extended : Bool) : Nat → Reader Regex
  | 0 => return .empty
  | n + 1 => do
    let a ← branch whole extended ((← get).rest.length + 1) true
    match (← get).rest, extended with
    | '|' :: rest, true | '\\' :: '|' :: rest, false =>
      take rest
      return .either a (← alternatives whole extended n)
    | _, _ => return a

/-- Reads expressions with groups no deeper than the number says. -/
def wholeWithin (extended : Bool) : Nat → Reader Regex
  | 0 => throw .unmatchedOpen
  | n + 1 => do alternatives (wholeWithin extended n) extended ((← get).rest.length + 1)

def parse (extended : Bool) (text : String) : Except Fault Regex := do
  let cs := text.toList
  let (r, s) ← wholeWithin extended (cs.length + 1) { rest := cs }
  if s.rest.isEmpty then return r else throw .unmatchedClose

/-- The expression that matches just the text. -/
def literally (text : String) : Regex := text.toList.foldr (fun c r => .both (.char c) r) .empty

end Regex

end SyntaxWire.Shell
