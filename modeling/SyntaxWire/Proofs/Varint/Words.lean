/-
A number read as a machine reads it: a word that seven bits join at a time,
shifted into place, and slices of the bytes at hand. Every shift keeps all
bits and every slice lies within the bytes, and what is read is the number
that `decode` finds (`readWord_eq`). A word that is written by shifts gives
the groups of its number (`writeWord_eq`).
-/
import SyntaxWire.Proofs.Except
import SyntaxWire.Proofs.Trap
import SyntaxWire.Proofs.Varint

namespace SyntaxWire.Varint

/-- The pass over the bytes of `data`, with group `i` next. The groups before it are in `x`. -/
def readGroups (data : Bytes) (i shift : Nat) (x : UInt64) : Bytes → Except (Stop Fault) (UInt64 × Bytes)
  | [] => .error (.fault .truncated)
  | b :: bytes =>
    if shift = 63 ∧ 1 < b then .error (.fault .overflow)
    else if b < 128 then
      if b = 0 ∧ 0 < i then .error (.fault .nonCanonical)
      else do
        let group ← Trap.shiftLeft b.toUInt64 shift
        let (_, rest) ← Trap.splitAt (i + 1) data
        .ok (x ||| group, rest)
    else do
      let group ← Trap.shiftLeft (b &&& 127).toUInt64 shift
      readGroups data (i + 1) (shift + 7) (x ||| group) bytes

/-- The number at the front of `data` as a word, and what follows it. -/
def readWord (data : Bytes) : Except (Stop Fault) (UInt64 × Bytes) := readGroups data 0 0 0 data

/-- A word that group `i` and what is above it join. -/
def join (x : UInt64) (i : Nat) (p : Nat × Bytes) : UInt64 × Bytes :=
  (UInt64.ofNat (x.toNat + p.1 * Nat.pow 2 (7 * i)), p.2)

theorem toNat_and_127 (b : UInt8) : (b &&& 127).toNat = b.toNat % 128 := by
  rw [UInt8.toNat_and]
  exact Nat.and_two_pow_sub_one_eq_mod b.toNat 7

theorem pow_seven_succ (i : Nat) : Nat.pow 2 (7 * (i + 1)) = 128 * Nat.pow 2 (7 * i) := by
  have h : Nat.pow 2 (7 * i + 7) = Nat.pow 2 (7 * i) * Nat.pow 2 7 := Nat.pow_add 2 (7 * i) 7
  rw [Nat.mul_succ, h, Nat.mul_comm]

/-- A group that is not past the top of a word. -/
theorem group_fits {i n : Nat} (hi : i ≤ 9) (hn : n < 128) (htop : i = 9 → n ≤ 1) :
    n * Nat.pow 2 (7 * i) < UInt64.size := by
  by_cases h9 : i = 9
  · subst h9
    exact Nat.lt_of_le_of_lt (Nat.mul_le_mul_right _ (htop rfl)) (by decide)
  · have hpow : Nat.pow 2 (7 * i) ≤ Nat.pow 2 56 := Nat.pow_le_pow_right (by decide) (by omega)
    exact Nat.lt_of_le_of_lt (Nat.mul_le_mul (Nat.le_of_lt_succ hn) hpow) (by decide)

/-- A group joins the word in full. -/
theorem shiftLeft_group {x : UInt64} {i : Nat} {b : UInt8} (hi : i ≤ 9) (hx : x.toNat < Nat.pow 2 (7 * i))
    (hb : b.toNat < 128) (htop : i = 9 → b.toNat ≤ 1) :
    ∃ y, (Trap.shiftLeft b.toUInt64 (7 * i) : Except (Stop Fault) UInt64) = .ok y ∧
      (x ||| y).toNat = x.toNat + b.toNat * Nat.pow 2 (7 * i) := by
  have hfits : b.toUInt64.toNat * Nat.pow 2 (7 * i) < UInt64.size := by
    rw [UInt8.toNat_toUInt64]
    exact group_fits hi hb htop
  have hgroup := @Trap.shiftLeft_or Fault x b.toUInt64 (7 * i) (by omega) hx hfits
  rwa [UInt8.toNat_toUInt64] at hgroup

/-- What the higher groups bring is the same, whether group `i` has joined the word or the number. -/
theorem join_group {x y : UInt64} {i n : Nat} (h : (x ||| y).toNat = x.toNat + n * Nat.pow 2 (7 * i))
    (p : Nat × Bytes) : join (x ||| y) (i + 1) p = join x i (n + 128 * p.1, p.2) := by
  have hsum : (x ||| y).toNat + p.1 * Nat.pow 2 (7 * (i + 1)) = x.toNat + (n + 128 * p.1) * Nat.pow 2 (7 * i) := by
    rw [h, pow_seven_succ, Nat.add_mul, Nat.mul_left_comm, Nat.mul_assoc, Nat.add_assoc]
  rw [join, join, hsum]

/-- With the groups of `front` in the word, the pass reads on as `decodeGroup` does. -/
theorem readGroups_eq {data front bytes : Bytes} {x : UInt64} (hdata : data = front ++ bytes)
    (hi : front.length ≤ 9) (hx : x.toNat < Nat.pow 2 (7 * front.length)) :
    readGroups data front.length (7 * front.length) x bytes =
      ((decodeGroup front.length bytes).map (join x front.length)).mapError .fault := by
  induction bytes generalizing front x with
  | nil => rfl
  | cons b bytes ih =>
    have hdata' : data = (front ++ [b]) ++ bytes := by rw [hdata, List.append_assoc, List.singleton_append]
    have hlength : (front ++ [b]).length = front.length + 1 := by rw [List.length_append, List.length_singleton]
    rw [readGroups, decodeGroup]
    by_cases htop : front.length = 9 ∧ 1 < b
    · rw [if_pos ⟨by omega, htop.2⟩, if_pos htop]
      rfl
    rw [if_neg (fun h => htop ⟨by omega, h.2⟩), if_neg htop]
    have htop : front.length = 9 → b.toNat ≤ 1 := fun h =>
      Nat.not_lt.1 fun hb => htop ⟨h, UInt8.lt_iff_toNat_lt.2 hb⟩
    by_cases hlow : b < 128
    · rw [if_pos hlow, if_pos hlow]
      split
      · rfl
      -- The last group: it joins the others, and what follows is what `data` has after it.
      have hb : b.toNat < 128 := UInt8.lt_iff_toNat_lt.1 hlow
      obtain ⟨y, hy, hor⟩ := shiftLeft_group hi hx hb htop
      have hword : x ||| y = UInt64.ofNat (x.toNat + b.toNat * Nat.pow 2 (7 * front.length)) := by
        rw [← UInt64.ofNat_toNat (x := x ||| y), hor]
      rw [hy, Except.ok_bind, ← hlength, hdata', Trap.splitAt_append, Except.ok_bind, hword]
      rfl
    · -- A group before the last: its seven low bits join the others, and the word still has room for the rest.
      rw [if_neg hlow, if_neg hlow]
      have hb : 128 ≤ b.toNat := Nat.not_lt.1 fun h => hlow (UInt8.lt_iff_toNat_lt.2 h)
      have hb' : b.toNat < 256 := b.toNat_lt
      have hgroup : (b &&& 127).toNat = b.toNat - 128 := by
        rw [toNat_and_127]
        omega
      obtain ⟨y, hy, hor⟩ := @shiftLeft_group x front.length (b &&& 127) hi hx (by omega) (by omega)
      rw [hgroup] at hor
      have hx' : (x ||| y).toNat < Nat.pow 2 (7 * (front ++ [b]).length) := by
        have hle : (b.toNat - 128) * Nat.pow 2 (7 * front.length) ≤ 127 * Nat.pow 2 (7 * front.length) :=
          Nat.mul_le_mul_right _ (by omega)
        rw [hlength, pow_seven_succ, hor]
        omega
      have hrest := ih hdata' (by omega) hx'
      rw [hlength] at hrest
      rw [hy, Except.ok_bind]
      refine hrest.trans ?_
      cases decodeGroup (front.length + 1) bytes with
      | error e => rfl
      | ok p => exact congrArg Except.ok (join_group hor p)

/-- The word is the number, and nothing traps on the way to it. -/
theorem readWord_eq (s : Bytes) :
    readWord s = ((decode s).map fun p => (UInt64.ofNat p.1, p.2)).mapError .fault := by
  have h := @readGroups_eq s [] s 0 rfl (Nat.zero_le 9) (by decide)
  have hjoin : join 0 0 = fun p => (UInt64.ofNat p.1, p.2) := funext fun p => by simp [join]
  rw [List.length_nil, hjoin] at h
  exact h

/-! ## Writing -/

theorem lt_128_iff {x : UInt64} : x < 128 ↔ x.toNat < 128 := UInt64.lt_iff_toNat_lt

theorem toNat_shiftRight_seven (x : UInt64) : (x >>> 7).toNat = x.toNat / 128 := by
  rw [UInt64.toNat_shiftRight]
  exact Nat.shiftRight_eq_div_pow _ _

/-- The groups of a word, each shifted out of it and all but the last marked by their high bit. -/
def writeWord (x : UInt64) : Bytes :=
  if x < 128 then [x.toUInt8] else (x.toUInt8 ||| 128) :: writeWord (x >>> 7)
termination_by x.toNat
decreasing_by
  have hx : 128 ≤ x.toNat := Nat.not_lt.1 (mt lt_128_iff.2 ‹_›)
  rw [toNat_shiftRight_seven]
  omega

/-- Marking a group keeps its seven low bits. -/
theorem toNat_or_128 (b : UInt8) : (b ||| 128).toNat = 128 + b.toNat % 128 := by
  have hb : b.toNat < 256 := b.toNat_lt
  have hlow : (b.toNat ||| 128) % 128 = b.toNat % 128 :=
    (Nat.or_mod_two_pow (n := 7)).trans (Nat.or_zero _)
  have hhigh : (b.toNat ||| 128) / 128 = b.toNat / 128 ||| 1 := Nat.or_div_two_pow (n := 7)
  have hmark : b.toNat / 128 ||| 1 = 1 := by
    rcases (by omega : b.toNat / 128 = 0 ∨ b.toNat / 128 = 1) with h | h <;> rw [h] <;> rfl
  have hor : (b ||| 128).toNat = b.toNat ||| 128 := UInt8.toNat_or b 128
  omega

theorem writeWord_eq (x : UInt64) : writeWord x = encode x.toNat := by
  fun_induction writeWord x with
  | case1 x h =>
    rw [encode, if_pos (lt_128_iff.1 h)]
    rfl
  | case2 x h ih =>
    have hmod : x.toUInt8.toNat % 128 = x.toNat % 128 := by
      rw [UInt64.toNat_toUInt8]
      omega
    have hmark : x.toUInt8 ||| 128 = UInt8.ofNat (128 + x.toNat % 128) := by
      rw [← hmod, ← toNat_or_128, UInt8.ofNat_toNat]
    rw [encode, if_neg (mt lt_128_iff.2 h), hmark, ih, toNat_shiftRight_seven]

end SyntaxWire.Varint
