/-
Shortest decimal text of a binary64 number.

The reals that round to a number form an interval around it, which has its
ends exactly when the number's significand is even. Among the decimals in
that interval the one with the fewest digits is taken, and of those the
nearest. All of it is arithmetic on natural numbers. How the digits are then
spelled is a record (`Style`).
-/

namespace SyntaxWire.Text.Shortest

/-- A positive number below infinity, `significand * 2 ^ (exponent - 2)`, with the ends of its interval. -/
structure Interval where
  value : Nat
  low : Nat
  high : Nat
  /-- Whether the ends round to the number too. -/
  closed : Bool
  exponent : Int

/-- The interval of the number with the given bits, whose sign is dropped. -/
def intervalOf (bits : UInt64) : Interval :=
  let fraction := (bits &&& 0xfffffffffffff).toNat
  let biased := (bits >>> 52 &&& 0x7ff).toNat
  let m := if biased = 0 then fraction else fraction + 0x10000000000000
  let lowest := fraction = 0 ∧ 1 < biased
  { value := 4 * m
    low := if lowest then 4 * m - 1 else 4 * m - 2
    high := 4 * m + 2
    closed := m % 2 = 0
    exponent := (max biased 1 : Nat) - 1077 }

/-- `n * 2 ^ e * 10 ^ (- k)` as a quotient. -/
def scaled (n : Nat) (e k : Int) : Nat × Nat :=
  let num := n * Nat.pow 2 e.toNat * Nat.pow 10 (-k).toNat
  let den := Nat.pow 2 (-e).toNat * Nat.pow 10 k.toNat
  (num, den)

/-- The least `k` with a value below `10 ^ k`, found by counting up from `start`. -/
def magnitude (i : Interval) (start : Int) : Nat → Int
  | 0 => start
  | fuel + 1 =>
    let (num, den) := scaled i.value i.exponent start
    if num < den then start else magnitude i (start + 1) fuel

def within (i : Interval) (d : Nat) (k : Int) : Bool :=
  let (low, den) := scaled i.low i.exponent k
  let (high, _) := scaled i.high i.exponent k
  if i.closed then low ≤ d * den && d * den ≤ high else low < d * den && d * den < high

/-- The point of the grid `10 ^ k` that is nearest to the value, of those in the interval. -/
def onGrid (i : Interval) (k : Int) : Option Nat :=
  let (num, den) := scaled i.value i.exponent k
  let below := num / den
  let above := below + 1
  match within i below k && 0 < below, within i above k with
  | false, false => none
  | true, false => some below
  | false, true => some above
  | true, true =>
    let down := num - below * den
    let up := above * den - num
    some (if down < up ∨ (down = up ∧ below % 2 = 0) then below else above)

/-- Tries one digit more at a time. Seventeen digits always suffice. -/
def search (i : Interval) (k : Int) : Nat → Nat × Int
  | 0 => (i.value, k)
  | fuel + 1 =>
    match onGrid i k with
    | some d => (d, k)
    | none => search i (k - 1) fuel

/-- The digits of a positive number and the place of the point after the first of them. -/
def digits (bits : UInt64) : List Char × Int :=
  let i := intervalOf bits
  let k := magnitude i (-330) 700
  let (d, place) := search i (k - 1) 18
  let all := Nat.toDigits 10 d
  let kept := (all.reverse.dropWhile (· == '0')).reverse
  (kept, place + all.length - 1)

/-- How digits are spelled. -/
structure Style where
  /-- The least and the greatest exponent that are written out with zeros. -/
  least : Int
  greatest : Int
  /-- What marks a positive exponent. -/
  plus : String

def zeros (n : Nat) : List Char := List.replicate n '0'

/-- Puts the point into the digits, keeping a zero on either side of it. -/
def positional (ds : List Char) (exponent : Int) : List Char :=
  if exponent < 0 then '0' :: '.' :: zeros (-exponent - 1).toNat ++ ds
  else
    let n := exponent.toNat + 1
    let fraction := ds.drop n
    ds.take n ++ zeros (n - ds.length) ++ '.' :: (if fraction.isEmpty then ['0'] else fraction)

def scientific (style : Style) (ds : List Char) (exponent : Int) : List Char :=
  let mantissa := match ds with
    | d :: e :: ds => d :: '.' :: e :: ds
    | ds => ds
  let es := Nat.toDigits 10 exponent.natAbs
  let sign := if exponent < 0 then "-" else style.plus
  mantissa ++ 'e' :: sign.toList ++ es

/-- The text of a finite number given by its bits. -/
def render (style : Style) (bits : UInt64) : String :=
  let sign := if bits >>> 63 = 0 then "" else "-"
  let magnitude := bits &&& 0x7fffffffffffffff
  if magnitude = 0 then sign ++ "0.0"
  else
    let (ds, exponent) := digits magnitude
    let spelled := if style.least ≤ exponent ∧ exponent ≤ style.greatest then positional ds exponent
      else scientific style ds exponent
    sign ++ String.ofList spelled

end SyntaxWire.Text.Shortest
