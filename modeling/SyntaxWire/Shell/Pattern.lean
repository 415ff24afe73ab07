/-
Patterns of file names and texts: `*` matches any text, `?` any character,
and brackets any character of those they list.
-/
import SyntaxWire.Shell.Raw

namespace SyntaxWire.Shell

/-- A character, and whether it was quoted. -/
abbrev Glyph := Char × Bool

inductive Symbol where
  | char (c : Char)
  | anyChar
  | anyText
  | oneOf (negated : Bool) (ranges : List (Char × Char))
deriving DecidableEq, Repr

abbrev Pattern := List Symbol

namespace Pattern

/-- The classes of characters that have a name, as ranges. -/
def classes : List (String × List (Char × Char)) :=
  [("alpha", [('a', 'z'), ('A', 'Z')]), ("digit", [('0', '9')]),
    ("alnum", [('a', 'z'), ('A', 'Z'), ('0', '9')]), ("upper", [('A', 'Z')]), ("lower", [('a', 'z')]),
    ("space", [('\t', '\r'), (' ', ' ')]), ("blank", [('\t', '\t'), (' ', ' ')]),
    ("punct", [('!', '/'), (':', '@'), ('[', '\x60'), ('\x7b', '~')]), ("print", [(' ', '~')]),
    ("graph", [('!', '~')]), ("cntrl", [('\x00', '\x1f'), ('\x7f', '\x7f')]),
    ("xdigit", [('0', '9'), ('a', 'f'), ('A', 'F')])]

/-- A class `[:name:]`, its opening bracket taken off, and what follows it. -/
def classAt? (cs : List Char) : Option (List (Char × Char) × List Char) :=
  match cs with
  | ':' :: rest =>
    let name := rest.takeWhile Char.isAlpha
    match rest.drop name.length with
    | ':' :: ']' :: rest => (classes.lookup (String.ofList name)).map (·, rest)
    | _ => none
  | _ => none

/-- The inside of brackets and what follows them, if they are closed. The first character never closes them. -/
def ranges? (first : Bool) (fuel : Nat) (gs : List Glyph) : Option (List (Char × Char) × List Glyph) :=
  match fuel, gs with
  | 0, _ | _, [] => none
  | fuel + 1, (c, quoted) :: rest =>
    if c = ']' ∧ ¬ quoted ∧ ¬ first then some ([], rest)
    else
      let here := if c = '[' ∧ ¬ quoted then classAt? (rest.map (·.1)) else none
      match here with
      | some (ranges, left) =>
        (ranges? false fuel (rest.drop (rest.length - left.length))).map fun (rs, rest) => (ranges ++ rs, rest)
      | none =>
        match rest with
        | ('-', false) :: (d, closes) :: rest =>
          if d = ']' ∧ ¬ closes then
            (ranges? false fuel (('-', false) :: (d, closes) :: rest)).map fun (rs, rest) => ((c, c) :: rs, rest)
          else (ranges? false fuel rest).map fun (rs, rest) => ((c, d) :: rs, rest)
        | rest => (ranges? false fuel rest).map fun (rs, rest) => ((c, c) :: rs, rest)

/-- The set that follows an opening bracket. -/
def bracket? (gs : List Glyph) : Option (Symbol × List Glyph) :=
  let (negated, inside) := match gs with
    | ('!', false) :: rest => (true, rest)
    | gs => (false, gs)
  (ranges? true gs.length inside).map fun (ranges, rest) => (.oneOf negated ranges, rest)

def ofGlyphsWithin : Nat → List Glyph → Pattern
  | 0, _ | _, [] => []
  | n + 1, (c, true) :: rest => .char c :: ofGlyphsWithin n rest
  | n + 1, ('*', false) :: rest => .anyText :: ofGlyphsWithin n rest
  | n + 1, ('?', false) :: rest => .anyChar :: ofGlyphsWithin n rest
  | n + 1, ('[', false) :: rest =>
    match bracket? rest with
    | some (s, rest) => s :: ofGlyphsWithin n rest
    | none => .char '[' :: ofGlyphsWithin n rest
  | n + 1, (c, false) :: rest => .char c :: ofGlyphsWithin n rest

def ofGlyphs (gs : List Glyph) : Pattern := ofGlyphsWithin gs.length gs

/-- Whether there is more in the pattern than one text. -/
def isOpen (p : Pattern) : Bool :=
  p.any fun
    | .char _ => false
    | _ => true

end Pattern

def Symbol.accepts : Symbol → Char → Bool
  | char c, d => c = d
  | anyChar, _ | anyText, _ => true
  | oneOf negated ranges, d => (ranges.any fun (a, b) => a ≤ d && d ≤ b) != negated

namespace Pattern

def accepts (p : Pattern) (cs : List Char) : Bool :=
  match p, cs with
  | [], cs => cs.isEmpty
  | .anyText :: p, [] => accepts p []
  | .anyText :: p, c :: cs => accepts p (c :: cs) || accepts (.anyText :: p) cs
  | _ :: _, [] => false
  | s :: p, c :: cs => s.accepts c && accepts p cs
termination_by p.length + cs.length
decreasing_by all_goals simp only [List.length_cons]; omega

/-- The text without the shortest or longest part at its front that the pattern accepts. -/
def cutFront (p : Pattern) (longest : Bool) (cs : List Char) : List Char :=
  let sizes := List.range (cs.length + 1)
  match (if longest then sizes.reverse else sizes).find? fun n => accepts p (cs.take n) with
  | some n => cs.drop n
  | none => cs

def cutEnd (p : Pattern) (longest : Bool) (cs : List Char) : List Char :=
  let sizes := List.range (cs.length + 1)
  match (if longest then sizes else sizes.reverse).find? fun n => accepts p (cs.drop n) with
  | some n => cs.take n
  | none => cs

end Pattern

end SyntaxWire.Shell
