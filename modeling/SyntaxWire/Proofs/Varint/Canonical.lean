/-
Which bytes are numbers. Reading passes over groups with the high bit set, and
what it comes to behind them decides: a last group that ends a number in its
shortest form, or one of three faults (`decode_error_iff`). So the bytes that
are accepted are the written forms of words, those that may still become one
are the fronts of written forms, and all others are refused whatever follows
(`decode_canonical`).
-/
import SyntaxWire.Proofs.Varint.Words

namespace SyntaxWire.Varint

variable {i : Nat} {s front rest : Bytes} {e : Fault}

/-! ## Groups with the high bit set -/

/-- The number that groups stand for in front of the groups of `high`. -/
def joined (front : Bytes) (high : Nat) : Nat := front.foldr (fun b n => b.toNat - 128 + 128 * n) high

theorem decodeGroup_high {b : UInt8} (hi : i < 9) (hb : 128 ≤ b) (s : Bytes) :
    decodeGroup i (b :: s) = (decodeGroup (i + 1) s).map fun p => (b.toNat - 128 + 128 * p.1, p.2) := by
  have hb : 128 ≤ b.toNat := UInt8.le_iff_toNat_le.1 hb
  rw [decodeGroup_cons, if_neg (by omega), if_neg (by omega)]

/-- Reading goes on behind groups with the high bit set, as long as a word has room for another. -/
theorem decodeGroup_append (hfront : ∀ b ∈ front, 128 ≤ b) (hi : i + front.length ≤ 9) (s : Bytes) :
    decodeGroup i (front ++ s) = (decodeGroup (i + front.length) s).map fun p => (joined front p.1, p.2) := by
  induction front generalizing i with
  | nil =>
    show decodeGroup i s = (decodeGroup i s).map id
    cases decodeGroup i s <;> rfl
  | cons b front ih =>
    obtain ⟨hb, hfront⟩ := List.forall_mem_cons.1 hfront
    rw [List.length_cons] at hi ⊢
    have hnext := ih hfront (i := i + 1) (by omega)
    have hplace : i + 1 + front.length = i + (front.length + 1) := by omega
    rw [List.cons_append, decodeGroup_high (by omega) hb, hnext, hplace]
    cases decodeGroup (i + (front.length + 1)) s <;> rfl

/-- What is wrong at the first of the bytes, if they start with group `i`: there is none, it is past
the top of a word, or it is a last group without a bit. -/
inductive Ends (i : Nat) : Fault → Bytes → Prop where
  | truncated : Ends i .truncated []
  | overflow {b : UInt8} {s : Bytes} : i = 9 → 1 < b → Ends i .overflow (b :: s)
  | nonCanonical {s : Bytes} : 0 < i → Ends i .nonCanonical (0 :: s)

theorem decodeGroup_of_ends (h : Ends i e s) : decodeGroup i s = .error e := by
  cases h with
  | truncated => rfl
  | overflow h9 hb => rw [decodeGroup, if_pos ⟨h9, hb⟩]
  | nonCanonical hi =>
    have htop : ¬ (i = 9 ∧ (1 : UInt8) < 0) := fun h => absurd h.2 (by decide)
    rw [decodeGroup, if_neg htop, if_pos (by decide), if_pos ⟨rfl, hi⟩]

/-- A group that is no fault ends the number, or has the high bit set and room behind it. -/
theorem decodeGroup_cons_cases (hi : i ≤ 9) (b : UInt8) (s : Bytes) :
    (∃ e, Ends i e (b :: s)) ∨ (∃ n, decodeGroup i (b :: s) = .ok (n, s)) ∨ i < 9 ∧ 128 ≤ b := by
  by_cases htop : i = 9 ∧ 1 < b
  · exact .inl ⟨_, .overflow htop.1 htop.2⟩
  by_cases hlow : b < 128
  · by_cases hzero : b = 0 ∧ 0 < i
    · obtain ⟨rfl, hi⟩ := hzero
      exact .inl ⟨_, .nonCanonical hi⟩
    · refine .inr (.inl ⟨b.toNat, ?_⟩)
      rw [decodeGroup, if_neg htop, if_pos hlow, if_neg hzero]
  · have hb : 128 ≤ b := UInt8.not_lt.1 hlow
    refine .inr (.inr ⟨Nat.lt_of_le_of_ne hi fun h9 => htop ⟨h9, ?_⟩, hb⟩)
    exact UInt8.lt_of_lt_of_le (by decide) hb

/-- A fault is found behind groups with the high bit set. -/
theorem exists_ends_of_decodeGroup (hi : i ≤ 9) (h : decodeGroup i s = .error e) :
    ∃ front tail, s = front ++ tail ∧ (∀ b ∈ front, 128 ≤ b) ∧ i + front.length ≤ 9 ∧
      Ends (i + front.length) e tail := by
  induction s generalizing i with
  | nil =>
    cases h
    exact ⟨[], [], rfl, List.forall_mem_nil _, hi, .truncated⟩
  | cons b s ih =>
    rcases decodeGroup_cons_cases hi b s with ⟨e', hends⟩ | ⟨n, hn⟩ | ⟨hi, hb⟩
    · obtain rfl : e = e' := Except.error.inj (h.symm.trans (decodeGroup_of_ends hends))
      exact ⟨[], b :: s, rfl, List.forall_mem_nil _, hi, hends⟩
    · rw [hn] at h
      cases h
    · rw [decodeGroup_high hi hb, Except.map_error_iff] at h
      obtain ⟨front, tail, rfl, hfront, hplace, hends⟩ := ih hi h
      have hlength : i + (b :: front).length = i + 1 + front.length := by
        rw [List.length_cons]
        omega
      exact ⟨b :: front, tail, rfl, List.forall_mem_cons.2 ⟨hb, hfront⟩, hlength ▸ hplace, hlength ▸ hends⟩

theorem decode_error_iff : decode s = .error e ↔
    ∃ front tail, s = front ++ tail ∧ (∀ b ∈ front, 128 ≤ b) ∧ front.length ≤ 9 ∧ Ends front.length e tail := by
  constructor
  · intro h
    obtain ⟨front, tail, hs, hfront, hplace, hends⟩ := exists_ends_of_decodeGroup (Nat.zero_le 9) h
    rw [Nat.zero_add] at hplace hends
    exact ⟨front, tail, hs, hfront, hplace, hends⟩
  · rintro ⟨front, tail, rfl, hfront, hplace, hends⟩
    rw [decode, decodeGroup_append hfront (by omega), Nat.zero_add, decodeGroup_of_ends hends]
    rfl

/-! ## The three faults -/

/-- Bytes that end inside a number are the front of a written form. -/
theorem decode_eq_truncated_iff :
    decode s = .error .truncated ↔ ∃ (m : UInt64) (t : Bytes), t ≠ [] ∧ encode m.toNat = s ++ t := by
  constructor
  · intro h
    obtain ⟨front, tail, rfl, hfront, hplace, ⟨⟩⟩ := decode_error_iff.1 h
    -- One bit in the next group makes a number of them.
    have hone : decodeGroup front.length [1] = .ok (1, []) := by
      rw [decodeGroup, if_neg (fun h => absurd h.2 (by decide)), if_pos (by decide),
        if_neg (fun h => absurd h.1 (by decide))]
      rfl
    have hdecode : decode (front ++ [1]) = .ok (joined front 1, []) := by
      rw [decode, decodeGroup_append hfront (by omega), Nat.zero_add, hone]
      rfl
    obtain ⟨hwritten, hword⟩ := eq_encode_of_decode hdecode
    refine ⟨UInt64.ofNat (joined front 1), [1], List.cons_ne_nil _ _, ?_⟩
    rw [UInt64.toNat_ofNat_of_lt' hword, List.append_nil, hwritten, List.append_nil]
  · rintro ⟨m, t, ht, hm⟩
    have hdecode : decode (s ++ t) = .ok (m.toNat, []) := by
      rw [← hm, ← List.append_nil (encode m.toNat), decode_encode _ m.toNat_lt]
    cases hs : decode s with
    | ok p =>
      have happend := decode_append hs t
      rw [hdecode] at happend
      have hnil := (Prod.mk.inj (Except.ok.inj happend)).2
      exact absurd (List.append_eq_nil_iff.1 hnil.symm).2 ht
    | error e =>
      by_cases he : e = .truncated
      · rw [he]
      · rw [decode_error_append hs he t] at hdecode
        cases hdecode

/-- The byte behind so many bytes, with what is in front of it. -/
theorem exists_front_iff {b : UInt8} :
    (∃ front tail, s = front ++ b :: tail ∧ (∀ a ∈ front, 128 ≤ a) ∧ front.length = i) ↔
      (∀ a ∈ s.take i, 128 ≤ a) ∧ s[i]? = some b := by
  constructor
  · rintro ⟨front, tail, rfl, hfront, rfl⟩
    rw [List.take_left, List.getElem?_append_right (Nat.le_refl _), Nat.sub_self]
    exact ⟨hfront, rfl⟩
  · rintro ⟨hfront, hb⟩
    obtain ⟨hi, hb⟩ := List.getElem?_eq_some_iff.1 hb
    refine ⟨s.take i, s.drop (i + 1), ?_, hfront, List.length_take_of_le (Nat.le_of_lt hi)⟩
    rw [← hb, ← List.drop_eq_getElem_cons hi, List.take_append_drop]

/-- A number is too large if its tenth group is past the top of a word. -/
theorem decode_eq_overflow_iff :
    decode s = .error .overflow ↔ (∀ a ∈ s.take 9, 128 ≤ a) ∧ ∃ b, s[9]? = some b ∧ 1 < b := by
  rw [decode_error_iff]
  constructor
  · rintro ⟨front, tail, hs, hfront, -, hends⟩
    cases hends with
    | @overflow b rest h9 hb =>
      obtain ⟨htake, hbyte⟩ := exists_front_iff.1 ⟨front, rest, hs, hfront, h9⟩
      exact ⟨htake, b, hbyte, hb⟩
  · rintro ⟨htake, b, hbyte, hb⟩
    obtain ⟨front, tail, hs, hfront, h9⟩ := exists_front_iff.2 ⟨htake, hbyte⟩
    exact ⟨front, b :: tail, hs, hfront, Nat.le_of_eq h9, .overflow h9 hb⟩

/-- A number is not in its shortest form if a group behind the first ends it without a bit. -/
theorem decode_eq_nonCanonical_iff : decode s = .error .nonCanonical ↔
    ∃ i, 0 < i ∧ i ≤ 9 ∧ (∀ a ∈ s.take i, 128 ≤ a) ∧ s[i]? = some 0 := by
  rw [decode_error_iff]
  constructor
  · rintro ⟨front, tail, hs, hfront, hplace, hends⟩
    cases hends with
    | @nonCanonical rest hpos =>
      obtain ⟨htake, hbyte⟩ := exists_front_iff.1 ⟨front, rest, hs, hfront, rfl⟩
      exact ⟨front.length, hpos, hplace, htake, hbyte⟩
  · rintro ⟨i, hpos, hplace, htake, hbyte⟩
    obtain ⟨front, tail, hs, hfront, rfl⟩ := exists_front_iff.2 ⟨htake, hbyte⟩
    exact ⟨front, 0 :: tail, hs, hfront, hplace, .nonCanonical hpos⟩

/-! ## Written forms -/

theorem decode_ok_iff {n : Nat} : decode s = .ok (n, rest) ↔ s = encode n ++ rest ∧ n < UInt64.size := by
  refine ⟨eq_encode_of_decode, ?_⟩
  rintro ⟨rfl, hn⟩
  exact decode_encode rest hn

/-- A written form has no more groups than a word has room for. -/
theorem size_le {n : Nat} (hi : i ≤ 9) (hn : n < room i) : size n ≤ 10 - i := by
  induction n using size.induct generalizing i with
  | case1 n hlow =>
    rw [size, if_pos hlow]
    omega
  | case2 n hhigh ih =>
    have h9 : i ≠ 9 := by
      rintro rfl
      rw [room_nine] at hn
      omega
    have hroom := room_succ (i := i) (by omega)
    have hrest := ih (i := i + 1) (by omega) (by omega)
    rw [size, if_neg hhigh]
    omega

/-! ## Words -/

theorem readWord_ok_iff {x : UInt64} : readWord s = .ok (x, rest) ↔ decode s = .ok (x.toNat, rest) := by
  rw [readWord_eq, Except.mapError_ok_iff, Except.map_ok_iff]
  constructor
  · rintro ⟨⟨n, rest'⟩, hn, h⟩
    obtain ⟨rfl, rfl⟩ := Prod.mk.inj h
    rw [hn, UInt64.toNat_ofNat_of_lt' (eq_encode_of_decode hn).2]
  · intro h
    exact ⟨(x.toNat, rest), h, by rw [UInt64.ofNat_toNat]⟩

theorem readWord_error_iff {stop : Stop Fault} :
    readWord s = .error stop ↔ ∃ e, decode s = .error e ∧ stop = .fault e := by
  rw [readWord_eq]
  cases decode s with
  | ok p => exact iff_of_false nofun fun h => nomatch h
  | error e =>
    constructor
    · intro h
      exact ⟨e, rfl, (Except.error.inj h).symm⟩
    · rintro ⟨_, ⟨⟩, rfl⟩
      rfl

/-- **The bytes that are read as a number are the written form of a word, and whatever follows it.**
A written form has as many groups as `size` says, from one to ten. Bytes end inside a number exactly
if they are the front of a written form; a number is too large exactly if nine groups have the high
bit set and the tenth is above one, and not in its shortest form exactly if an empty group ends it;
and neither of these two faults goes away with more bytes. A machine that shifts groups into a word
and out of it reads and writes the same, and never traps. -/
theorem decode_canonical (s : Bytes) :
    (∀ n rest, decode s = .ok (n, rest) ↔ s = encode n ++ rest ∧ n < UInt64.size) ∧
    (∀ n : UInt64, (encode n.toNat).length = size n.toNat ∧ 1 ≤ size n.toNat ∧ size n.toNat ≤ 10) ∧
    (decode s = .error .truncated ↔ ∃ (m : UInt64) (t : Bytes), t ≠ [] ∧ encode m.toNat = s ++ t) ∧
    (decode s = .error .overflow ↔ (∀ a ∈ s.take 9, 128 ≤ a) ∧ ∃ b, s[9]? = some b ∧ 1 < b) ∧
    (decode s = .error .nonCanonical ↔ ∃ i, 0 < i ∧ i ≤ 9 ∧ (∀ a ∈ s.take i, 128 ≤ a) ∧ s[i]? = some 0) ∧
    (∀ e, decode s = .error e → e ≠ .truncated → ∀ x, decode (s ++ x) = .error e) ∧
    (∀ (x : UInt64) rest, readWord s = .ok (x, rest) ↔ s = writeWord x ++ rest) ∧
    ∀ stop, readWord s = .error stop ↔ ∃ e, decode s = .error e ∧ stop = .fault e := by
  refine ⟨fun _ _ => decode_ok_iff, fun n => ?_, decode_eq_truncated_iff, decode_eq_overflow_iff,
    decode_eq_nonCanonical_iff, fun _ => decode_error_append, fun x rest => ?_, fun _ => readWord_error_iff⟩
  · have hpos := length_encode_pos n.toNat
    rw [length_encode] at hpos
    exact ⟨length_encode _, hpos, size_le (Nat.zero_le 9) (by rw [room_zero]; exact n.toNat_lt)⟩
  · rw [readWord_ok_iff, decode_ok_iff, writeWord_eq]
    exact and_iff_left x.toNat_lt

end SyntaxWire.Varint
