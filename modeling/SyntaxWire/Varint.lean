/-
Variable-length numbers: groups of seven bits, lowest first, the high bit
set on every byte but the last. A number has one written form, the
shortest, and `decode` accepts no other; so what is read is written back
as it stood. Values are below 2 ^ 64.
-/
import SyntaxWire.Bytes

namespace SyntaxWire.Varint

inductive Fault where
  /-- The bytes ended inside the number. -/
  | truncated
  /-- The number is 2 ^ 64 or more. -/
  | overflow
  /-- The last group is zero, so a shorter form exists. -/
  | nonCanonical
deriving DecidableEq, Repr

def encode (n : Nat) : Bytes :=
  if n < 128 then [UInt8.ofNat n] else UInt8.ofNat (128 + n % 128) :: encode (n / 128)

/-- How many bytes `encode` writes. -/
def size (n : Nat) : Nat :=
  if n < 128 then 1 else 1 + size (n / 128)

/-- Reads on after `i` groups. The tenth group has room for one bit. -/
def decodeGroup (i : Nat) : Bytes → Except Fault (Nat × Bytes)
  | [] => .error .truncated
  | b :: s =>
    if i = 9 ∧ 1 < b then .error .overflow
    else if b < 128 then
      if b = 0 ∧ 0 < i then .error .nonCanonical else .ok (b.toNat, s)
    else do
      let (high, s) ← decodeGroup (i + 1) s
      .ok (b.toNat - 128 + 128 * high, s)

/-- The number at the front of `s`, and what follows it. -/
def decode (s : Bytes) : Except Fault (Nat × Bytes) := decodeGroup 0 s

theorem length_encode (n : Nat) : (encode n).length = size n := by
  fun_induction encode n with
  | case1 n h => rw [size, if_pos h]; rfl
  | case2 n h ih => rw [size, if_neg h, List.length_cons, ih, Nat.add_comm]

theorem decodeGroup_shortens {i n : Nat} {s rest : Bytes} (h : decodeGroup i s = .ok (n, rest)) :
    rest.length < s.length := by
  induction s generalizing i n with
  | nil => simp [decodeGroup] at h
  | cons b s ih =>
    unfold decodeGroup at h
    split at h
    · cases h
    · split at h
      · split at h
        · cases h
        · simp only [Except.ok.injEq, Prod.mk.injEq] at h
          simp [h.2]
      · cases hs : decodeGroup (i + 1) s with
        | error e => simp [hs, bind, Except.bind] at h
        | ok p =>
          obtain ⟨high, r⟩ := p
          simp only [hs, bind, Except.bind, Except.ok.injEq, Prod.mk.injEq] at h
          obtain ⟨_, rfl⟩ := h
          have := ih hs
          simp only [List.length_cons]
          omega

theorem decode_shortens {n : Nat} {s rest : Bytes} (h : decode s = .ok (n, rest)) :
    rest.length < s.length :=
  decodeGroup_shortens h

end SyntaxWire.Varint
