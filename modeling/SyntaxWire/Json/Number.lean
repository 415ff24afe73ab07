/-
JSON numbers.

Integers are exact as long as they fit 64 bits. Everything else becomes a
binary64 number: the significand keeps as many digits as fit 64 bits, and
the rest, the digits after the point and the exponent only scale it.
-/
import SyntaxWire.Json.Fault

namespace SyntaxWire.Json

inductive Number where
  | integer (n : Int)
  | float (bits : UInt64)
deriving DecidableEq, Repr

def isDigit (c : Char) : Bool := '0' ≤ c && c ≤ '9'

def digitValue (c : Char) : Nat := c.toNat - '0'.toNat

/-- Appends digits to a significand while it stays below 2 ^ 64; gives what did not fit. -/
def takeDigits (n : Nat) : List Char → Nat × List Char
  | [] => (n, [])
  | c :: cs =>
    let next := 10 * n + digitValue c
    if next < UInt64.size then takeDigits next cs else (n, c :: cs)

/-- The number `f * 10 ^ e`, if it is finite. -/
def scale (f : Float) (e : Int) : Option Float :=
  if e.natAbs ≤ 308 then
    let power := Float.ofScientific 1 false e.natAbs
    if 0 ≤ e then
      let g := f * power
      if g.isInf then none else some g
    else some (f / power)
  else if f == 0 then some f
  else if 0 ≤ e then none
  else scale (f / Float.ofScientific 1 false 308) (e + 308)
termination_by e.natAbs
decreasing_by omega

def floatOf (negative : Bool) (significand : Nat) (exponent : Int) : Except Fault Number :=
  match scale significand.toUInt64.toFloat exponent with
  | none => .error .numberOutOfRange
  | some f => .ok (.float (if negative then -f else f).toBits)

/-- Reads the digits of an exponent. Beyond 31 bits its size alone decides. -/
def exponentValue (cs : List Char) : Option Nat :=
  let n := cs.foldl (fun n c => min (10 * n + digitValue c) 0x80000000) 0
  if n < 0x80000000 then some n else none

/-- The rest of a number after its `e`. -/
def readExponent (negative : Bool) (significand : Nat) (exponent : Int) (s : List Char) :
    Except Fault (Number × List Char) :=
  let (below, s) := match s with
    | '+' :: s => (false, s)
    | '-' :: s => (true, s)
    | s => (false, s)
  match s.takeWhile isDigit, s.dropWhile isDigit with
  | [], [] => .error .endOfValue
  | [], _ :: _ => .error .invalidNumber
  | ds, rest =>
    match exponentValue ds with
    | some n => do
      let v ← floatOf negative significand (if below then exponent - n else exponent + n)
      .ok (v, rest)
    | none =>
      if significand ≠ 0 ∧ ¬ below then .error .numberOutOfRange
      else do
        let v ← floatOf negative 0 0
        .ok (v, rest)

/-- The rest of a number after its point. -/
def readFraction (negative : Bool) (significand : Nat) (exponent : Int) (s : List Char) :
    Except Fault (Number × List Char) :=
  match s.takeWhile isDigit, s.dropWhile isDigit with
  | [], [] => .error .endOfValue
  | [], _ :: _ => .error .invalidNumber
  | ds, rest =>
    let (significand, dropped) := takeDigits significand ds
    let exponent := exponent - (ds.length - dropped.length : Nat)
    match rest with
    | 'e' :: rest | 'E' :: rest => readExponent negative significand exponent rest
    | rest => do
      let v ← floatOf negative significand exponent
      .ok (v, rest)

/-- Reads a number after its sign. -/
def readNumber (negative : Bool) (s : List Char) : Except Fault (Number × List Char) :=
  match s.takeWhile isDigit, s.dropWhile isDigit with
  | [], [] => .error .endOfValue
  | [], _ :: _ => .error .invalidNumber
  | '0' :: _ :: _, _ => .error .invalidNumber
  | ds, rest =>
    let (significand, dropped) := takeDigits 0 ds
    let exponent : Int := dropped.length
    match rest with
    | '.' :: rest => readFraction negative significand exponent rest
    | 'e' :: rest | 'E' :: rest => readExponent negative significand exponent rest
    | rest =>
      if dropped ≠ [] then do
        let v ← floatOf negative significand exponent
        .ok (v, rest)
      else if ¬ negative then .ok (.integer significand, rest)
      else if significand = 0 ∨ 0x8000000000000000 < significand then do
        let v ← floatOf true significand 0
        .ok (v, rest)
      else .ok (.integer (-significand), rest)

/-- Passes over a number after its sign, checking its form only. -/
def skipNumber (s : List Char) : Except Fault (List Char) :=
  match s.takeWhile isDigit, s.dropWhile isDigit with
  | [], _ => .error .invalidNumber
  | '0' :: _ :: _, _ => .error .invalidNumber
  | _, rest =>
    match rest with
    | '.' :: rest =>
      match rest.takeWhile isDigit, rest.dropWhile isDigit with
      | [], _ => .error .invalidNumber
      | _, 'e' :: rest | _, 'E' :: rest => skipExponent rest
      | _, rest => .ok rest
    | 'e' :: rest | 'E' :: rest => skipExponent rest
    | rest => .ok rest
where
  skipExponent (s : List Char) : Except Fault (List Char) :=
    let s := match s with
      | '+' :: s | '-' :: s => s
      | s => s
    match s.takeWhile isDigit with
    | [] => .error .invalidNumber
    | _ => .ok (s.dropWhile isDigit)

end SyntaxWire.Json
