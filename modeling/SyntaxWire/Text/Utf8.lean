/-
Faulty UTF-8: where the first fault is, and the text with every fault
replaced by U+FFFD. A fault is a lead byte with as many of the bytes that
may follow it as are there, or a byte that cannot lead.
-/
import SyntaxWire.Bytes

namespace SyntaxWire.Text.Utf8

/-- The ranges of the bytes that follow a lead byte. -/
def followers (lead : UInt8) : Option (List (UInt8 × UInt8)) :=
  let any : UInt8 × UInt8 := (0x80, 0xBF)
  if lead < 0x80 then some []
  else if lead < 0xC2 then none
  else if lead < 0xE0 then some [any]
  else if lead = 0xE0 then some [(0xA0, 0xBF), any]
  else if lead = 0xED then some [(0x80, 0x9F), any]
  else if lead < 0xF0 then some [any, any]
  else if lead = 0xF0 then some [(0x90, 0xBF), any, any]
  else if lead < 0xF4 then some [any, any, any]
  else if lead = 0xF4 then some [(0x80, 0x8F), any, any]
  else none

/-- What the ranges find in front of them. -/
inductive Fit where
  | whole
  /-- This many bytes, and then a wrong one. -/
  | wrong (count : Nat)
  /-- This many bytes, and then the end. -/
  | cut (count : Nat)
deriving DecidableEq, Repr

def fit (count : Nat) : List (UInt8 × UInt8) → Bytes → Fit
  | [], _ => .whole
  | _ :: _, [] => .cut count
  | (low, high) :: ranges, b :: s =>
    if low ≤ b ∧ b ≤ high then fit (count + 1) ranges s else .wrong count

/-- A faulty place: where it starts and its length, if it is not just the end that is missing. -/
structure Fault where
  start : Nat
  length : Option Nat
deriving DecidableEq, Repr

def Fault.message (f : Fault) : String :=
  match f.length with
  | some n => s!"invalid utf-8 sequence of {n} bytes from index {f.start}"
  | none => s!"incomplete utf-8 byte sequence from index {f.start}"

/-- The number of bytes of the character or the fault at the front, and whether it is a fault. -/
def piece (lead : UInt8) (s : Bytes) : Nat × Option (Option Nat) :=
  match followers lead with
  | none => (1, some (some 1))
  | some ranges =>
    match fit 0 ranges s with
    | .whole => (1 + ranges.length, none)
    | .wrong n => (1 + n, some (some (1 + n)))
    | .cut n => (1 + n, some none)

/-- The faults of `s`, of which `start` bytes have been passed. -/
def faultsFrom (start : Nat) (s : Bytes) : List Fault :=
  match s with
  | [] => []
  | b :: s =>
    let (n, fault) := piece b s
    (fault.map (⟨start, ·⟩)).toList ++ faultsFrom (start + n) (s.drop (n - 1))
termination_by s.length
decreasing_by simp only [List.length_drop, List.length_cons]; omega

def firstFault? (s : Bytes) : Option Fault := (faultsFrom 0 s).head?

/-- The bytes with U+FFFD in place of every fault. -/
def mended (s : Bytes) : Bytes :=
  match s with
  | [] => []
  | b :: s =>
    let (n, fault) := piece b s
    let front := if fault.isSome then Bytes.ofText "\ufffd" else (b :: s).take n
    front ++ mended (s.drop (n - 1))
termination_by s.length
decreasing_by simp only [List.length_drop, List.length_cons]; omega

def lossyText (s : Bytes) : String := (Bytes.text? (mended s)).getD ""

end SyntaxWire.Text.Utf8
