/-
What is written of a string or a number is read back, whatever follows it
(`readString_writeString`), as long as what follows does not go on with the
number (`readNumber_toDigits`).
-/
import SyntaxWire.Json.Value
import SyntaxWire.Json.Scan

namespace SyntaxWire.Json

/-! ## Numbers -/

/-- A character that goes on with a number. -/
def continuesNumber (c : Char) : Bool := isDigit c || c == '.' || c == 'e' || c == 'E'

/-- A number in front of the text ends there. -/
def Stops (s : List Char) : Prop := ∀ c ∈ s.head?, continuesNumber c = false

theorem stops_nil : Stops [] := nofun

theorem stops_cons {c : Char} {s : List Char} (h : continuesNumber c = false) : Stops (c :: s) := by
  intro d hd
  cases hd
  exact h

theorem Stops.isDigit_eq_false {c : Char} {s : List Char} (h : Stops (c :: s)) : isDigit c = false := by
  have hc := h c rfl
  simp only [continuesNumber, Bool.or_eq_false_iff] at hc
  exact hc.1.1.1

theorem isDigit_of_mem_toDigits {n : Nat} {c : Char} (h : c ∈ Nat.toDigits 10 n) : isDigit c = true := by
  have hdigit := Nat.isDigit_of_mem_toDigits (by decide) (by decide) h
  simpa [isDigit, Char.isDigit, Char.le_def] using hdigit

theorem takeWhile_toDigits {n : Nat} {rest : List Char} (hrest : Stops rest) :
    (Nat.toDigits 10 n ++ rest).takeWhile isDigit = Nat.toDigits 10 n ∧
      (Nat.toDigits 10 n ++ rest).dropWhile isDigit = rest := by
  have hdigits : ∀ c ∈ Nat.toDigits 10 n, isDigit c = true := fun c => isDigit_of_mem_toDigits
  rw [List.takeWhile_append_of_pos hdigits, List.dropWhile_append_of_pos hdigits]
  cases rest with
  | nil => simp
  | cons c rest => simp [hrest.isDigit_eq_false]

theorem le_ofDigitChars (m : Nat) (ds : List Char) : m ≤ Nat.ofDigitChars 10 ds m := by
  induction ds generalizing m with
  | nil => exact Nat.le_refl m
  | cons d ds ih =>
    have hrest := ih (10 * m + digitValue d)
    simp only [Nat.ofDigitChars, List.foldl_cons, digitValue] at hrest ⊢
    omega

/-- No digits are dropped of a number that fits 64 bits. -/
theorem takeDigits_eq {m : Nat} {ds : List Char} (h : Nat.ofDigitChars 10 ds m < UInt64.size) :
    takeDigits m ds = (Nat.ofDigitChars 10 ds m, []) := by
  induction ds generalizing m with
  | nil => rfl
  | cons d ds ih =>
    have hvalue : Nat.ofDigitChars 10 (d :: ds) m = Nat.ofDigitChars 10 ds (10 * m + digitValue d) := rfl
    rw [hvalue] at h ⊢
    rw [takeDigits, if_pos (Nat.lt_of_le_of_lt (le_ofDigitChars _ ds) h), ih h]

/-- No number but zero starts with a zero. -/
theorem head_toDigits {n : Nat} (h : 0 < n) : ∃ c cs, Nat.toDigits 10 n = c :: cs ∧ c ≠ '0' := by
  induction n using Nat.strongRecOn with
  | ind n ih =>
    by_cases hn : n < 10
    · refine ⟨n.digitChar, [], Nat.toDigits_of_lt_base hn, ?_⟩
      have hdigit : ∀ m < 10, 0 < m → m.digitChar ≠ '0' := by decide
      exact hdigit n hn h
    · obtain ⟨c, cs, hcs, hc⟩ := ih (n / 10) (by omega) (by omega)
      refine ⟨c, cs ++ [(n % 10).digitChar], ?_, hc⟩
      rw [Nat.toDigits_of_base_le (by decide) (by omega), hcs, List.cons_append]

theorem readNumber_toDigits {n : Nat} {rest : List Char} (hn : n < UInt64.size) (hrest : Stops rest) :
    readNumber false (Nat.toDigits 10 n ++ rest) = .ok (.integer n, rest) := by
  obtain ⟨htake, hdrop⟩ := takeWhile_toDigits (n := n) hrest
  have hvalue : Nat.ofDigitChars 10 (Nat.toDigits 10 n) 0 = n := Nat.ofDigitChars_toDigits (by decide) (by decide)
  have hdigits : takeDigits 0 (Nat.toDigits 10 n) = (n, []) := by
    rw [takeDigits_eq (by rwa [hvalue]), hvalue]
  unfold readNumber
  rw [htake, hdrop]
  split
  · next h => exact absurd h Nat.toDigits_ne_nil
  · next h => exact absurd h Nat.toDigits_ne_nil
  · next h =>
    rcases Nat.eq_zero_or_pos n with rfl | hpos
    · cases h
    · obtain ⟨c, cs, hcs, hc⟩ := head_toDigits hpos
      exact absurd (List.cons.inj (hcs.symm.trans h)).1 hc
  · rw [hdigits]
    dsimp only
    split
    · exact absurd (hrest _ rfl) (by decide)
    · exact absurd (hrest _ rfl) (by decide)
    · exact absurd (hrest _ rfl) (by decide)
    · rfl

/-! ## Strings -/

theorem length_le_utf8ByteSize (s : List Char) : s.length ≤ (String.ofList s).utf8ByteSize := by
  induction s with
  | nil => exact Nat.zero_le _
  | cons c s ih =>
    have hc := Char.utf8Size_pos c
    rw [String.ofList_cons, String.utf8ByteSize_append, String.utf8ByteSize_singleton, List.length_cons]
    omega

theorem readHex_hexDigit {n : Nat} (h : n < 256) (s : List Char) :
    readHex ('0' :: '0' :: Bytes.hexDigit (n / 16) :: Bytes.hexDigit (n % 16) :: s) = .ok (n, s) := by
  have hvalue : ∀ m < 16, hexValue? (Bytes.hexDigit m) = some m := by decide
  have hzero : hexValue? '0' = some 0 := rfl
  have hsize : 4 ≤ (String.ofList ['0', '0', Bytes.hexDigit (n / 16), Bytes.hexDigit (n % 16)]).utf8ByteSize :=
    length_le_utf8ByteSize ['0', '0', Bytes.hexDigit (n / 16), Bytes.hexDigit (n % 16)]
  rw [readHex, List.take, List.take, List.take, List.take, List.take, if_neg (Nat.not_lt.2 hsize)]
  simp only [hzero, hvalue (n / 16) (by omega), hvalue (n % 16) (by omega), Except.ok.injEq, Prod.mk.injEq, and_true]
  omega

theorem readUnicode_control {c : Char} (h : c.toNat < 0x20) (s : List Char) :
    readUnicode ('0' :: '0' :: Bytes.hexDigit (c.toNat / 16) :: Bytes.hexDigit (c.toNat % 16) :: s) = .ok (c, s) := by
  rw [readUnicode, readHex_hexDigit (by omega)]
  dsimp only [bind, Except.bind]
  rw [if_neg (by omega), if_pos (by omega), Char.ofNat_toNat]

variable {done s : List Char}

theorem readChars_quote : readChars done ('"' :: s) = .ok (done.reverse, s) := by
  rw [readChars, if_pos rfl]

theorem readChars_escape {c : Char} {rest : List Char} (h : readEscape s = .ok (c, rest)) :
    readChars done ('\\' :: s) = readChars (c :: done) rest := by
  rw [readChars, if_neg (by decide), if_pos rfl]
  split
  · next f hf => rw [h] at hf; cases hf
  · next hf => rw [h] at hf; cases hf; rfl

theorem readChars_plain {c : Char} (hquote : c ≠ '"') (hescape : c ≠ '\\') (hcontrol : ¬ c.toNat < 0x20) :
    readChars done (c :: s) = readChars (c :: done) s := by
  rw [readChars, if_neg hquote, if_neg hescape, if_neg hcontrol]

theorem readChars_escapeChar (c : Char) : readChars done (escapeChar c ++ s) = readChars (c :: done) s := by
  unfold escapeChar
  split
  · next h => subst h; exact readChars_escape rfl
  split
  · next h => subst h; exact readChars_escape rfl
  split
  · next h => subst h; exact readChars_escape rfl
  split
  · next h => subst h; exact readChars_escape rfl
  split
  · next h => subst h; exact readChars_escape rfl
  split
  · next h => subst h; exact readChars_escape rfl
  split
  · next h => subst h; exact readChars_escape rfl
  split
  · next h => exact readChars_escape (readUnicode_control h s)
  · next hquote hescape _ _ _ _ _ hcontrol => exact readChars_plain hquote hescape hcontrol

theorem readChars_flatMap_escapeChar (cs : List Char) :
    readChars done (cs.flatMap escapeChar ++ '"' :: s) = .ok (done.reverse ++ cs, s) := by
  induction cs generalizing done with
  | nil => rw [List.flatMap_nil, List.nil_append, readChars_quote, List.append_nil]
  | cons c cs ih =>
    rw [List.flatMap_cons, List.append_assoc, readChars_escapeChar, ih, List.reverse_cons, List.append_assoc]
    rfl

theorem readString_escaped (text : String) (s : List Char) :
    readString (text.toList.flatMap escapeChar ++ '"' :: s) = .ok (text, s) := by
  rw [readString, readChars_flatMap_escapeChar]
  exact congrArg (fun text => Except.ok (text, s)) String.ofList_toList

end SyntaxWire.Json
