/-
Steps that words and slices of a machine do not always have an answer to. Each
one here says for which operands it has one, and traps for all others, so a
computation made of them that is shown not to trap stays within its words and
its slices. A trap is not a fault: a fault is an answer.
-/

namespace SyntaxWire

inductive Trap where
  /-- A shift by the width of the word or more, or of a bit past its top. -/
  | shift
  /-- A word that the narrower type has no room for. -/
  | narrowing
  /-- A difference below zero. -/
  | underflow
  /-- A slice past the end of the bytes. -/
  | outOfBounds
  /-- The top of an empty stack. -/
  | emptyStack
deriving DecidableEq, Repr

/-- Why a computation has no result. -/
inductive Stop (φ : Type) where
  | trap (t : Trap)
  | fault (f : φ)
deriving DecidableEq, Repr

namespace Trap

variable {φ α : Type}

def shiftLeft (x : UInt64) (n : Nat) : Except (Stop φ) UInt64 :=
  if n < 64 ∧ x.toNat <<< n < UInt64.size then .ok (x <<< UInt64.ofNat n) else .error (.trap .shift)

def narrow (x : UInt64) : Except (Stop φ) UInt32 :=
  if x.toNat < UInt32.size then .ok x.toUInt32 else .error (.trap .narrowing)

/-- A word as a length, which has room for any number up to `limit`. -/
def toLength (limit : Nat) (x : UInt64) : Except (Stop φ) Nat :=
  if x.toNat ≤ limit then .ok x.toNat else .error (.trap .narrowing)

def difference (m n : Nat) : Except (Stop φ) Nat :=
  if n ≤ m then .ok (m - n) else .error (.trap .underflow)

def splitAt (n : Nat) (s : List α) : Except (Stop φ) (List α × List α) :=
  if n ≤ s.length then .ok (s.take n, s.drop n) else .error (.trap .outOfBounds)

/-- The top of a stack that should have one. -/
def top : List α → Except (Stop φ) α
  | [] => .error (.trap .emptyStack)
  | a :: _ => .ok a

theorem narrow_of_lt {x : UInt64} (h : x.toNat < UInt32.size) :
    (narrow x : Except (Stop φ) UInt32) = .ok x.toUInt32 :=
  if_pos h

theorem toLength_of_le {limit : Nat} {x : UInt64} (h : x.toNat ≤ limit) :
    (toLength limit x : Except (Stop φ) Nat) = .ok x.toNat :=
  if_pos h

theorem difference_of_le {m n : Nat} (h : n ≤ m) : (difference m n : Except (Stop φ) Nat) = .ok (m - n) := if_pos h

theorem splitAt_append (a b : List α) :
    (splitAt a.length (a ++ b) : Except (Stop φ) (List α × List α)) = .ok (a, b) := by
  have h : a.length ≤ (a ++ b).length := by
    rw [List.length_append]
    omega
  rw [splitAt, if_pos h, List.take_left, List.drop_left]

/-- Bits above those of `x` are put in place by a shift and an or. -/
theorem shiftLeft_or {x b : UInt64} {n : Nat} (hn : n < 64) (hx : x.toNat < Nat.pow 2 n)
    (hb : b.toNat * Nat.pow 2 n < UInt64.size) :
    ∃ y, (shiftLeft b n : Except (Stop φ) UInt64) = .ok y ∧ (x ||| y).toNat = x.toNat + b.toNat * Nat.pow 2 n := by
  have hpow : b.toNat <<< n = b.toNat * Nat.pow 2 n := Nat.shiftLeft_eq _ _
  refine ⟨b <<< UInt64.ofNat n, if_pos ⟨hn, by rwa [hpow]⟩, ?_⟩
  have hword : (UInt64.ofNat n).toNat = n := UInt64.toNat_ofNat_of_lt' (Nat.lt_trans hn (by decide))
  have hshift : (b <<< UInt64.ofNat n).toNat = b.toNat <<< n := by
    rw [UInt64.toNat_shiftLeft, hword, Nat.mod_eq_of_lt hn, hpow, Nat.mod_eq_of_lt hb]
  rw [UInt64.toNat_or, hshift, Nat.or_comm, ← Nat.shiftLeft_add_eq_or_of_lt hx, hpow, Nat.add_comm]

end Trap

end SyntaxWire
