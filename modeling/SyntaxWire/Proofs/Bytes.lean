/-
Splitting byte strings, little-endian words read and written back, and texts
told apart by their bytes.
-/
import SyntaxWire.Bytes

namespace SyntaxWire.Bytes

theorem split?_append (a b : Bytes) : split? a.length (a ++ b) = some (a, b) := by
  have h : holds a.length (a ++ b) = true := by
    rw [holds_iff, List.length_append]
    omega
  rw [split?, if_pos h, List.take_left, List.drop_left]

theorem ofLittleEndian_lt (s : Bytes) : ofLittleEndian s < Nat.pow 256 s.length := by
  induction s with
  | nil => exact Nat.zero_lt_one
  | cons b s ih =>
    have hb := b.toNat_lt
    have hpow : Nat.pow 256 (b :: s).length = Nat.pow 256 s.length * 256 := rfl
    rw [ofLittleEndian, hpow]
    omega

theorem littleEndian_ofLittleEndian (s : Bytes) : littleEndian s.length (ofLittleEndian s) = s := by
  induction s with
  | nil => rfl
  | cons b s ih =>
    have hb := b.toNat_lt
    have hmod : (b.toNat + 256 * ofLittleEndian s) % 256 = b.toNat := by omega
    have hdiv : (b.toNat + 256 * ofLittleEndian s) / 256 = ofLittleEndian s := by omega
    rw [List.length_cons, littleEndian, ofLittleEndian, hmod, hdiv, ih, UInt8.ofNat_toNat]

theorem ofText_injective {s t : String} (h : ofText s = ofText t) : s = t :=
  String.toByteArray_inj.1 (ByteArray.ext (Array.toList_inj.1 h))

/-- A text has one UTF-8 form, and is what that form is read as. -/
theorem text?_eq_some {s : Bytes} {t : String} : text? s = some t ↔ ofText t = s := by
  unfold text? String.fromUTF8?
  constructor
  · intro h
    split at h
    · cases h
      rfl
    · cases h
  · rintro rfl
    have hbytes : ByteArray.mk (ofText t).toArray = t.toByteArray := by
      rw [ofText, Array.toArray_toList]
      rfl
    rw [hbytes, dif_pos t.isValidUTF8]
    rfl

end SyntaxWire.Bytes
