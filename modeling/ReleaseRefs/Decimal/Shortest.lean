import ReleaseRefs.Decimal.Binary64

/-!
# `ReleaseRefs.Decimal.Shortest`: the fewest digits that read back

The decimal texts that read back as a given double form an interval around it, whose ends count
exactly if the significand is even. For one digit, two digits, and so on, the two neighbours of
the number on that decimal grid are tried; the first grid with a neighbour inside the interval
gives the digits, and of two neighbours inside it the nearer one.

- `Binary64.shortest` gives those digits and the place of the decimal point.
-/

set_option autoImplicit false

namespace ReleaseRefs

/-- A positive number in decimal: `0.d₁d₂…dₙ * 10 ^ point`, with `d₁` not zero. -/
structure Digits where
  digits : List Nat
  point : Int
  deriving DecidableEq, Repr

namespace Decimal

/-- The digits of a number in base ten. -/
def digitsOf (n : Nat) : List Nat := (Nat.toDigits 10 n).map fun c => c.toNat - 48

/-- `num / den` compared with powers of ten: the least `p` with `num / den < 10 ^ p`, searched
upwards from a lower bound. -/
def pointFrom (num den : Nat) : Nat → Int → Int
  | 0, p => p
  | fuel + 1, p =>
    let below :=
      if 0 ≤ p then num < den * Nat.pow 10 p.toNat else num * Nat.pow 10 (-p).toNat < den
    if below then p else pointFrom num den fuel (p + 1)

/-- The place of the decimal point of `num / den`: the least `p` with `num / den < 10 ^ p`. -/
def pointOf (num den : Nat) : Int :=
  let bits : Int := (Nat.log2 num : Int) - Nat.log2 den
  pointFrom num den 8 (bits * 30103 / 100000 - 2)

/-- `num / den` divided by `10 ^ k`, as numerator and denominator. -/
def scaleTen (num den : Nat) (k : Int) : Nat × Nat :=
  if 0 ≤ k then (num, den * Nat.pow 10 k.toNat) else (num * Nat.pow 10 (-k).toNat, den)

/-- Drops zeros at the end. -/
def trimZeros (ds : List Nat) : List Nat := (ds.reverse.dropWhile (· == 0)).reverse

/-- A count of units of `10 ^ k` as digits and point. -/
def ofUnits (n : Nat) (k : Int) : Digits :=
  let ds := digitsOf n
  ⟨trimZeros ds, ds.length + k⟩

end Decimal

namespace Binary64

/-- The interval of numbers that round to `significand * 2 ^ exponent`, times the denominator:
lower end, number, upper end, denominator. -/
def roundingInterval (significand : Nat) (exponent : Int) : Nat × Nat × Nat × Nat :=
  let below := if significand = Nat.pow 2 52 ∧ leastExponent < exponent then 1 else 2
  let s := if 0 ≤ exponent then Nat.pow 2 exponent.toNat else 1
  let d := if 0 ≤ exponent then 4 else 4 * Nat.pow 2 (-exponent).toNat
  ((4 * significand - below) * s, 4 * significand * s, (4 * significand + 2) * s, d)

/-- The neighbour on the grid of `10 ^ k` that lies inside the interval, the nearer of two. -/
def onGrid (inclusive : Bool) (lo x hi den : Nat) (k : Int) : Option Nat :=
  let sx := Decimal.scaleTen x den k
  let sl := Decimal.scaleTen lo den k
  let sh := Decimal.scaleTen hi den k
  let down := sx.1 / sx.2
  let up := down + 1
  let aboveLow := if inclusive then sl.1 ≤ down * sl.2 else sl.1 < down * sl.2
  let belowHigh := if inclusive then up * sh.2 ≤ sh.1 else up * sh.2 < sh.1
  let nearer := if 2 * (sx.1 % sx.2) < sx.2 then down
    else if sx.2 < 2 * (sx.1 % sx.2) then up
    else if down % 2 = 0 then down else up
  if down ≠ 0 ∧ aboveLow then
    if belowHigh then some nearer else some down
  else if belowHigh then some up
  else none

/-- Tries the grid of `10 ^ k` and then finer ones, with one more digit each. -/
def shortestFrom (inclusive : Bool) (lo x hi den : Nat) : Nat → Int → Digits
  | 0, k => Decimal.ofUnits (roundDiv (Decimal.scaleTen x den k).1 (Decimal.scaleTen x den k).2) k
  | fuel + 1, k =>
    match onGrid inclusive lo x hi den k with
    | some n => Decimal.ofUnits n k
    | none => shortestFrom inclusive lo x hi den fuel (k - 1)

/-- The fewest digits that read back as a positive finite number. -/
def shortest (significand : Nat) (exponent : Int) : Digits :=
  let i := roundingInterval significand exponent
  shortestFrom (significand % 2 = 0) i.1 i.2.1 i.2.2.1 i.2.2.2 17
    (Decimal.pointOf i.2.1 i.2.2.2 - 1)

end Binary64

end ReleaseRefs
