/-
The written form of a number, from both sides: what `encode` writes is read
back whatever follows it (`decode_encode`), and nothing else is read as a
number (`eq_encode_of_decode`). So more bytes do not change what was read,
nor a fault, unless the bytes ended inside the number. No written form is the
front of another (`encode_append_inj`).
-/
import SyntaxWire.Varint

namespace SyntaxWire.Varint

/-- How many numbers there are from group `i` on, where the ten groups of a word are 0 to 9. -/
def room (i : Nat) : Nat := 2 * Nat.pow 128 (9 - i)

theorem room_succ {i : Nat} (h : i < 9) : room i = 128 * room (i + 1) := by
  obtain ⟨j, hj⟩ : ∃ j, 9 - i = j + 1 := ⟨8 - i, by omega⟩
  have hj' : 9 - (i + 1) = j := by omega
  have hpow : Nat.pow 128 (j + 1) = Nat.pow 128 j * 128 := rfl
  simp only [room, hj, hj', hpow]
  omega

theorem room_zero : room 0 = UInt64.size := by decide

theorem room_nine : room 9 = 2 := by decide

/-- One group, with its byte as a number. -/
theorem decodeGroup_cons (i : Nat) (b : UInt8) (s : Bytes) :
    decodeGroup i (b :: s) =
      if i = 9 ∧ 1 < b.toNat then .error .overflow
      else if b.toNat < 128 then
        if b.toNat = 0 ∧ 0 < i then .error .nonCanonical else .ok (b.toNat, s)
      else (decodeGroup (i + 1) s).map fun (high, s) => (b.toNat - 128 + 128 * high, s) := by
  have htop : (1 < b) = (1 < b.toNat) := propext UInt8.lt_iff_toNat_lt
  have hlow : (b < 128) = (b.toNat < 128) := propext UInt8.lt_iff_toNat_lt
  have hzero : (b = 0) = (b.toNat = 0) := propext UInt8.toNat_inj.symm
  simp only [decodeGroup, htop, hlow, hzero]
  cases decodeGroup (i + 1) s <;> rfl

theorem length_encode_pos (n : Nat) : 0 < (encode n).length := by
  rw [encode]
  split
  · exact Nat.one_pos
  · exact Nat.succ_pos _

theorem decodeGroup_encode {i n : Nat} (rest : Bytes) (hi : i ≤ 9) (hn : n < room i) (hpos : 0 < i → 0 < n) :
    decodeGroup i (encode n ++ rest) = .ok (n, rest) := by
  fun_induction encode n generalizing i with
  | case1 n hlt =>
    have hb : (UInt8.ofNat n).toNat = n := UInt8.toNat_ofNat_of_lt' (show n < 256 by omega)
    have htop : ¬ (i = 9 ∧ 1 < n) := by
      rintro ⟨rfl, h⟩
      rw [room_nine] at hn
      omega
    have hzero : ¬ (n = 0 ∧ 0 < i) := by
      rintro ⟨rfl, h⟩
      exact Nat.lt_irrefl 0 (hpos h)
    simp only [List.cons_append, List.nil_append, decodeGroup_cons, hb, if_neg htop, if_pos hlt, if_neg hzero]
  | case2 n hge ih =>
    have hb : (UInt8.ofNat (128 + n % 128)).toNat = 128 + n % 128 :=
      UInt8.toNat_ofNat_of_lt' (show _ < 256 by omega)
    have hi9 : i ≠ 9 := by
      rintro rfl
      rw [room_nine] at hn
      omega
    have hroom := room_succ (i := i) (by omega)
    have hrest := ih (i := i + 1) (by omega) (by omega) (by omega)
    rw [List.cons_append, decodeGroup_cons, hb, if_neg (by omega), if_neg (by omega), hrest]
    simp only [Except.map, Except.ok.injEq, Prod.mk.injEq, and_true]
    omega

theorem decode_encode {n : Nat} (rest : Bytes) (h : n < UInt64.size) : decode (encode n ++ rest) = .ok (n, rest) :=
  decodeGroup_encode rest (by omega) (by rwa [room_zero]) (by omega)

theorem decodeGroup_canonical {i n : Nat} {s rest : Bytes} (h : decodeGroup i s = .ok (n, rest)) (hi : i ≤ 9) :
    s = encode n ++ rest ∧ n < room i ∧ (0 < i → 0 < n) := by
  induction s generalizing i n rest with
  | nil => cases h
  | cons b s ih =>
    rw [decodeGroup_cons] at h
    split at h
    · cases h
    next htop =>
    split at h
    · next hlow =>
      split at h
      · cases h
      next hzero =>
      simp only [Except.ok.injEq, Prod.mk.injEq] at h
      obtain ⟨rfl, rfl⟩ := h
      refine ⟨?_, ?_, by omega⟩
      · rw [encode, if_pos hlow, UInt8.ofNat_toNat]
        rfl
      · by_cases h9 : i = 9
        · subst h9
          rw [room_nine]
          omega
        · have := room_succ (i := i) (by omega)
          have : 0 < room (i + 1) := Nat.mul_pos (by decide) (Nat.pow_pos (by decide))
          omega
    · next hge =>
      cases hr : decodeGroup (i + 1) s with
      | error e => rw [hr] at h; cases h
      | ok p =>
        obtain ⟨high, rest'⟩ := p
        have hb : b.toNat < 256 := b.toNat_lt
        have hroom := room_succ (i := i) (by omega)
        obtain ⟨rfl, hlt, hpos⟩ := ih hr (by omega)
        simp only [hr, Except.map, Except.ok.injEq, Prod.mk.injEq] at h
        obtain ⟨rfl, rfl⟩ := h
        have hhigh := hpos (by omega)
        have hmod : 128 + (b.toNat - 128 + 128 * high) % 128 = b.toNat := by omega
        have hdiv : (b.toNat - 128 + 128 * high) / 128 = high := by omega
        have henc : encode (b.toNat - 128 + 128 * high) = b :: encode high := by
          rw [encode, if_neg (by omega), hmod, hdiv, UInt8.ofNat_toNat]
        exact ⟨by rw [henc, List.cons_append], by omega, fun _ => by omega⟩

/-- What is read as a number is the number's written form. -/
theorem eq_encode_of_decode {n : Nat} {s rest : Bytes} (h : decode s = .ok (n, rest)) :
    s = encode n ++ rest ∧ n < UInt64.size := by
  obtain ⟨hs, hn, -⟩ := decodeGroup_canonical h (by omega)
  exact ⟨hs, by rwa [room_zero] at hn⟩

theorem decode_append {n : Nat} {s rest : Bytes} (h : decode s = .ok (n, rest)) (x : Bytes) :
    decode (s ++ x) = .ok (n, rest ++ x) := by
  obtain ⟨rfl, hn⟩ := eq_encode_of_decode h
  rw [List.append_assoc, decode_encode _ hn]

theorem decodeGroup_error_append {i : Nat} {s : Bytes} {e : Fault} (h : decodeGroup i s = .error e)
    (he : e ≠ .truncated) (x : Bytes) : decodeGroup i (s ++ x) = .error e := by
  induction s generalizing i with
  | nil => cases h; exact absurd rfl he
  | cons b s ih =>
    rw [List.cons_append, decodeGroup_cons]
    rw [decodeGroup_cons] at h
    split at h
    · next htop => rw [if_pos htop]; exact h
    next htop =>
    rw [if_neg htop]
    split at h
    · next hlow =>
      rw [if_pos hlow]
      split at h
      · next hzero => rw [if_pos hzero]; exact h
      · cases h
    · next hge =>
      rw [if_neg hge]
      cases hr : decodeGroup (i + 1) s with
      | error f =>
        rw [hr] at h
        cases h
        rw [ih hr]
        rfl
      | ok p => rw [hr] at h; cases h

theorem decode_error_append {s : Bytes} {e : Fault} (h : decode s = .error e) (he : e ≠ .truncated) (x : Bytes) :
    decode (s ++ x) = .error e :=
  decodeGroup_error_append h he x

/-- No written form is the front of another one, however large the numbers are. -/
theorem encode_append_inj {m n : Nat} {x y : Bytes} (h : encode m ++ x = encode n ++ y) : m = n ∧ x = y := by
  have hlow {k : Nat} (hk : k < 128) : (UInt8.ofNat k).toNat = k := UInt8.toNat_ofNat_of_lt' (show k < 256 by omega)
  have hhigh (k : Nat) : (UInt8.ofNat (128 + k % 128)).toNat = 128 + k % 128 :=
    UInt8.toNat_ofNat_of_lt' (show 128 + k % 128 < 256 by omega)
  fun_induction encode m generalizing n with
  | case1 m hm =>
    rw [encode.eq_def n] at h
    split at h
    · next hn =>
      obtain ⟨hbyte, rfl⟩ := List.cons.inj h
      have hbyte := congrArg UInt8.toNat hbyte
      rw [hlow hm, hlow hn] at hbyte
      exact ⟨hbyte, rfl⟩
    · have hbyte := congrArg UInt8.toNat (List.cons.inj h).1
      rw [hlow hm, hhigh] at hbyte
      omega
  | case2 m hm ih =>
    rw [encode.eq_def n] at h
    split at h
    · next hn =>
      have hbyte := congrArg UInt8.toNat (List.cons.inj h).1
      rw [hhigh, hlow hn] at hbyte
      omega
    · obtain ⟨hbyte, hrest⟩ := List.cons.inj h
      have hbyte := congrArg UInt8.toNat hbyte
      rw [hhigh, hhigh] at hbyte
      obtain ⟨hquot, rfl⟩ := ih hrest
      exact ⟨by omega, rfl⟩

end SyntaxWire.Varint
