/-
The parts of a JSON text below its values: blanks, words, strings, and
values that are passed over without being looked at.
-/
import SyntaxWire.Json.Number

namespace SyntaxWire.Json

def isBlank (c : Char) : Bool := c = ' ' || c = '\n' || c = '\t' || c = '\r'

def skipBlanks (s : List Char) : List Char := s.dropWhile isBlank

/-- Reads the rest of a word. -/
def readWord : (word : List Char) → List Char → Except Fault (List Char)
  | [], s => .ok s
  | _ :: _, [] => .error .endOfValue
  | w :: ws, c :: s => if c = w then readWord ws s else .error .expectedIdent

def readNull (s : List Char) : Except Fault (List Char) := readWord ['u', 'l', 'l'] s

def readTrue (s : List Char) : Except Fault (List Char) := readWord ['r', 'u', 'e'] s

def readFalse (s : List Char) : Except Fault (List Char) := readWord ['a', 'l', 's', 'e'] s

def hexValue? (c : Char) : Option Nat :=
  if isDigit c then some (digitValue c)
  else if 'a' ≤ c && c ≤ 'f' then some (c.toNat - 'a'.toNat + 10)
  else if 'A' ≤ c && c ≤ 'F' then some (c.toNat - 'A'.toNat + 10)
  else none

/-- The four hexadecimal digits of an escape. An escape that the text's last bytes cut off is told from a wrong one. -/
def readHex (s : List Char) : Except Fault (Nat × List Char) :=
  if (String.ofList (s.take 4)).utf8ByteSize < 4 then .error .endOfString
  else match s with
    | a :: b :: c :: d :: rest =>
      match hexValue? a, hexValue? b, hexValue? c, hexValue? d with
      | some a, some b, some c, some d => .ok (4096 * a + 256 * b + 16 * c + d, rest)
      | _, _, _, _ => .error .invalidEscape
    | _ => .error .invalidEscape

/-- The character of an escape that starts with `u`. A character beyond 16 bits takes two of them. -/
def readUnicode (s : List Char) : Except Fault (Char × List Char) := do
  let (high, s) ← readHex s
  if 0xDC00 ≤ high ∧ high ≤ 0xDFFF then .error .loneSurrogate
  else if high < 0xD800 ∨ 0xDBFF < high then .ok (Char.ofNat high, s)
  else match s with
    | [] => .error .endOfString
    | '\\' :: [] => .error .endOfString
    | '\\' :: 'u' :: s => do
      let (low, s) ← readHex s
      if low < 0xDC00 ∨ 0xDFFF < low then .error .loneSurrogate
      else .ok (Char.ofNat (0x10000 + 1024 * (high - 0xD800) + (low - 0xDC00)), s)
    | _ => .error .endOfHexEscape

/-- The character that an escape stands for, after the backslash. -/
def readEscape : List Char → Except Fault (Char × List Char)
  | [] => .error .endOfString
  | '"' :: s => .ok ('"', s)
  | '\\' :: s => .ok ('\\', s)
  | '/' :: s => .ok ('/', s)
  | 'b' :: s => .ok ('\x08', s)
  | 'f' :: s => .ok ('\x0c', s)
  | 'n' :: s => .ok ('\n', s)
  | 'r' :: s => .ok ('\r', s)
  | 't' :: s => .ok ('\t', s)
  | 'u' :: s => readUnicode s
  | _ :: _ => .error .invalidEscape

/-- An escape that need not stand for a character. -/
def skipEscape : List Char → Except Fault (List Char)
  | [] => .error .endOfString
  | 'u' :: s => (readHex s).map (·.2)
  | c :: s => if c ∈ ['"', '\\', '/', 'b', 'f', 'n', 'r', 't'] then .ok s else .error .invalidEscape

theorem readHex_shortens {s rest : List Char} {n : Nat} (h : readHex s = .ok (n, rest)) :
    rest.length < s.length := by
  unfold readHex at h
  split at h
  · cases h
  · split at h
    · split at h
      · simp only [Except.ok.injEq, Prod.mk.injEq] at h
        obtain ⟨_, rfl⟩ := h
        simp only [List.length_cons]
        omega
      · cases h
    · cases h

theorem readUnicode_shortens {s rest : List Char} {c : Char} (h : readUnicode s = .ok (c, rest)) :
    rest.length < s.length := by
  unfold readUnicode at h
  cases hh : readHex s with
  | error f => simp [hh, bind, Except.bind] at h
  | ok p =>
    obtain ⟨high, s'⟩ := p
    have hs := readHex_shortens hh
    simp only [hh, bind, Except.bind] at h
    split at h
    · cases h
    · split at h
      · simp only [Except.ok.injEq, Prod.mk.injEq] at h
        obtain ⟨_, rfl⟩ := h
        exact hs
      · split at h
        · cases h
        · cases h
        · rename_i s''
          cases hl : readHex s'' with
          | error f => simp [hl] at h
          | ok p =>
            obtain ⟨low, s'''⟩ := p
            have hs' := readHex_shortens hl
            simp only [hl] at h
            split at h
            · cases h
            · simp only [Except.ok.injEq, Prod.mk.injEq] at h
              obtain ⟨_, rfl⟩ := h
              simp only [List.length_cons] at hs
              omega
        · cases h

theorem readEscape_shortens {s rest : List Char} {c : Char} (h : readEscape s = .ok (c, rest)) :
    rest.length < s.length := by
  unfold readEscape at h
  split at h
  case h_10 s => exact Nat.lt_succ_of_lt (readUnicode_shortens h)
  all_goals simp only [Except.ok.injEq, Prod.mk.injEq, reduceCtorEq] at h
  all_goals
    obtain ⟨_, rfl⟩ := h
    simp

theorem skipEscape_shortens {s rest : List Char} (h : skipEscape s = .ok rest) :
    rest.length < s.length := by
  unfold skipEscape at h
  split at h
  · cases h
  · rename_i s
    cases hh : readHex s with
    | error f => simp [hh, Except.map] at h
    | ok p =>
      have hs := readHex_shortens hh
      simp only [hh, Except.map, Except.ok.injEq] at h
      subst h
      simp only [List.length_cons]
      omega
  · split at h
    · cases h; simp
    · cases h

/-- The characters of a string up to its closing quote; `done` holds those read, last first. -/
def readChars (done : List Char) (s : List Char) : Except Fault (List Char × List Char) :=
  match s with
  | [] => .error .endOfString
  | c :: s =>
    if c = '"' then .ok (done.reverse, s)
    else if c = '\\' then
      match _ : readEscape s with
      | .error f => .error f
      | .ok (e, rest) => readChars (e :: done) rest
    else if c.toNat < 0x20 then .error .controlCharacter
    else readChars (c :: done) s
termination_by s.length
decreasing_by
  · have := readEscape_shortens ‹_›
    simp only [List.length_cons]
    omega
  · simp

/-- A string after its opening quote. -/
def readString (s : List Char) : Except Fault (String × List Char) := do
  let (cs, s) ← readChars [] s
  .ok (String.ofList cs, s)

/-- Passes over a string after its opening quote. -/
def skipString (s : List Char) : Except Fault (List Char) :=
  match s with
  | [] => .error .endOfString
  | c :: s =>
    if c = '"' then .ok s
    else if c = '\\' then
      match _ : skipEscape s with
      | .error f => .error f
      | .ok rest => skipString rest
    else if c.toNat < 0x20 then .error .controlCharacter
    else skipString s
termination_by s.length
decreasing_by
  · have := skipEscape_shortens ‹_›
    simp only [List.length_cons]
    omega
  · simp

/-- Blanks, a colon, and what follows. -/
def readColon (s : List Char) : Except Fault (List Char) :=
  match skipBlanks s with
  | [] => .error .endOfObject
  | ':' :: s => .ok s
  | _ :: _ => .error .expectedColon

/-- A list or an object that is being passed over. -/
inductive Bracket where
  | list
  | object
deriving DecidableEq, Repr

/-- The key and the colon in front of a member's value; a list's items have none. -/
def skipKey : Bracket → List Char → Except Fault (List Char)
  | .list, s => .ok s
  | .object, s =>
    match skipBlanks s with
    | [] => .error .endOfObject
    | '"' :: s => do
      let s ← skipString s
      readColon s
    | _ :: _ => .error .keyNotString

/-- Passes over what follows a complete value, up to the next value or the end of the outermost one. -/
def skipClosers : List Bracket → List Char → Except Fault (List Bracket × List Char)
  | [], s => .ok ([], s)
  | .list :: bs, s =>
    match skipBlanks s with
    | [] => .error .endOfList
    | ']' :: s => skipClosers bs s
    | ',' :: s => .ok (.list :: bs, s)
    | _ :: _ => .error .expectedListComma
  | .object :: bs, s =>
    match skipBlanks s with
    | [] => .error .endOfObject
    | '\x7d' :: s => skipClosers bs s
    | ',' :: s => do
      let s ← skipKey .object s
      .ok (.object :: bs, s)
    | _ :: _ => .error .expectedObjectComma

/-- What a value in a text to be passed over starts with: the brackets it leaves open, and whether it is complete. -/
def skipStart (bs : List Bracket) (s : List Char) : Except Fault (List Bracket × Bool × List Char) :=
  match skipBlanks s with
  | [] => .error .endOfValue
  | 'n' :: s => (readNull s).map (bs, true, ·)
  | 't' :: s => (readTrue s).map (bs, true, ·)
  | 'f' :: s => (readFalse s).map (bs, true, ·)
  | '"' :: s => (skipString s).map (bs, true, ·)
  | '-' :: s => (skipNumber s).map (bs, true, ·)
  | '[' :: s =>
    match skipBlanks s with
    | [] => .error .endOfList
    | ']' :: s => .ok (bs, true, s)
    | s => .ok (.list :: bs, false, s)
  | '\x7b' :: s =>
    match skipBlanks s with
    | [] => .error .endOfObject
    | '\x7d' :: s => .ok (bs, true, s)
    | s => (skipKey .object s).map (.object :: bs, false, ·)
  | c :: s => if isDigit c then (skipNumber (c :: s)).map (bs, true, ·) else .error .expectedValue

/-- Passes over the values that the open brackets still need; every round reads a character or more. -/
def skipOpen : (fuel : Nat) → List Bracket → List Char → Except Fault (List Char)
  | 0, _, _ => .error .endOfValue
  | fuel + 1, bs, s => do
    let (bs, complete, s) ← skipStart bs s
    if complete then
      let (bs, s) ← skipClosers bs s
      if bs.isEmpty then .ok s else skipOpen fuel bs s
    else skipOpen fuel bs s

/-- Passes over one value of any depth. -/
def skipValue (s : List Char) : Except Fault (List Char) := skipOpen (s.length + 1) [] s

end SyntaxWire.Json
