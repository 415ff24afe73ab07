/-
Byte strings: splitting, hexadecimal text, little-endian words and UTF-8.

Lists are used throughout, so that what a reader has left is a suffix of
what it was given.
-/

namespace SyntaxWire

abbrev Bytes := List UInt8

namespace Bytes

/-- Whether `s` has at least `n` bytes, looking at no more than `n` of them. -/
def holds : Nat → Bytes → Bool
  | 0, _ => true
  | _ + 1, [] => false
  | n + 1, _ :: s => holds n s

theorem holds_iff {n : Nat} {s : Bytes} : holds n s = true ↔ n ≤ s.length := by
  induction s generalizing n with
  | nil => cases n <;> simp [holds]
  | cons b s ih => cases n <;> simp [holds, ih]

/-- The first `n` bytes and the rest, when there are that many. -/
def split? (n : Nat) (s : Bytes) : Option (Bytes × Bytes) :=
  if holds n s then some (s.take n, s.drop n) else none

theorem split?_eq_some {n : Nat} {s head rest : Bytes} (h : split? n s = some (head, rest)) :
    s = head ++ rest ∧ head.length = n := by
  unfold split? at h
  split at h
  · rename_i hn
    rw [holds_iff] at hn
    simp only [Option.some.injEq, Prod.mk.injEq] at h
    obtain ⟨rfl, rfl⟩ := h
    simp [hn]
  · simp at h

def hexDigit (n : Nat) : Char :=
  if n < 10 then Char.ofNat ('0'.toNat + n) else Char.ofNat ('a'.toNat + (n - 10))

/-- Two lowercase hexadecimal digits a byte. -/
def hex (s : Bytes) : String :=
  String.ofList (s.flatMap fun b => [hexDigit (b.toNat / 16), hexDigit (b.toNat % 16)])

/-- The `width` low bytes of `n`, lowest first. -/
def littleEndian : (width : Nat) → Nat → Bytes
  | 0, _ => []
  | w + 1, n => UInt8.ofNat (n % 256) :: littleEndian w (n / 256)

/-- The number whose bytes, lowest first, are `s`. -/
def ofLittleEndian : Bytes → Nat
  | [] => 0
  | b :: s => b.toNat + 256 * ofLittleEndian s

/-- A little-endian number of `width` bytes and what follows it. -/
def readLittleEndian? (width : Nat) (s : Bytes) : Option (Nat × Bytes) :=
  (split? width s).map fun (word, rest) => (ofLittleEndian word, rest)

@[simp] theorem length_littleEndian (w n : Nat) : (littleEndian w n).length = w := by
  induction w generalizing n with
  | zero => rfl
  | succ w ih => simp [littleEndian, ih]

theorem ofLittleEndian_littleEndian {w n : Nat} (h : n < Nat.pow 256 w) :
    ofLittleEndian (littleEndian w n) = n := by
  induction w generalizing n with
  | zero => simp [littleEndian, ofLittleEndian] at *; omega
  | succ w ih =>
    have hq : n / 256 < Nat.pow 256 w := (Nat.div_lt_iff_lt_mul (by omega)).2 h
    have hb : (UInt8.ofNat (n % 256)).toNat = n % 256 := by
      simp [UInt8.toNat_ofNat']
    simp only [littleEndian, ofLittleEndian, ih hq, hb]
    omega

/-- The UTF-8 form of a text. -/
def ofText (s : String) : Bytes := s.toUTF8.data.toList

/-- The text whose UTF-8 form is `s`, if there is one. -/
def text? (s : Bytes) : Option String := String.fromUTF8? (ByteArray.mk s.toArray)

end Bytes

/-- Sixteen lowercase hexadecimal digits. -/
def hexWord (n : UInt64) : String := Bytes.hex (Bytes.littleEndian 8 n.toNat).reverse

end SyntaxWire
