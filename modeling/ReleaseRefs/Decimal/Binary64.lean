/-!
# `ReleaseRefs.Decimal.Binary64`: double-precision numbers in exact arithmetic

A finite number is `significand * 2 ^ exponent` with a significand below `2 ^ 53` and an exponent
of at least `-1074`; the significand has its leading bit unless the exponent is the least one.
Every operation is the exact result, rounded to the nearest number with ties to the even
significand.

- `ofRatio` rounds a quotient of natural numbers.
- `add`, `mul`, `neg` compute; `toInt?` gives the integer that a number equals.
- `ofRatio_zero`: a quotient with numerator zero is the zero of that sign.
-/

set_option autoImplicit false

namespace ReleaseRefs

/-- A double-precision number. -/
inductive Binary64 where
  | nan
  | infinity (negative : Bool)
  | finite (negative : Bool) (significand : Nat) (exponent : Int)
  deriving DecidableEq, Repr

namespace Binary64

/-- The exponent of subnormal numbers. -/
def leastExponent : Int := -1074

/-- The exponent of the largest numbers. -/
def greatestExponent : Int := 971

/-- Zero of either sign. -/
def zero (negative : Bool) : Binary64 := .finite negative 0 leastExponent

/-- `num / den` rounded to the nearest integer, a half to the even one. -/
def roundDiv (num den : Nat) : Nat :=
  let q := num / den
  let r := num % den
  if 2 * r < den then q
  else if den < 2 * r then q + 1
  else if q % 2 = 0 then q else q + 1

/-- `num / (den * 2 ^ e)` as numerator and denominator. -/
def scaleDown (num den : Nat) (e : Int) : Nat × Nat :=
  if 0 ≤ e then (num, den * Nat.pow 2 e.toNat) else (num * Nat.pow 2 (-e).toNat, den)

/-- The exponent at which `num / den` has 53 bits, but never below the least one. -/
def exponentFor (num den : Nat) : Int :=
  let guess := max ((Nat.log2 num : Int) - Nat.log2 den - 52) leastExponent
  let s := scaleDown num den guess
  if s.1 / s.2 < Nat.pow 2 52 ∧ leastExponent < guess then guess - 1 else guess

/-- The number nearest to `num / den`; beyond the largest numbers, infinity. -/
def ofRatio (negative : Bool) (num den : Nat) : Binary64 :=
  if num = 0 then zero negative
  else
    let e := exponentFor num den
    let s := scaleDown num den e
    let m := roundDiv s.1 s.2
    let r : Nat × Int := if m = Nat.pow 2 53 then (Nat.pow 2 52, e + 1) else (m, e)
    if greatestExponent < r.2 then .infinity negative else .finite negative r.1 r.2

/-- The number nearest to an integer. -/
def ofInt (n : Int) : Binary64 := ofRatio (n < 0) n.natAbs 1

/-- A finite magnitude as numerator and denominator. -/
def magnitude (significand : Nat) (exponent : Int) : Nat × Nat :=
  if 0 ≤ exponent then (significand * Nat.pow 2 exponent.toNat, 1)
  else (significand, Nat.pow 2 (-exponent).toNat)

/-- The same number with the other sign. -/
def neg : Binary64 → Binary64
  | .nan => .nan
  | .infinity s => .infinity (!s)
  | .finite s m e => .finite (!s) m e

/-- The sum. -/
def add : Binary64 → Binary64 → Binary64
  | .nan, _ => .nan
  | _, .nan => .nan
  | .infinity s, .infinity t => if s = t then .infinity s else .nan
  | .infinity s, .finite .. => .infinity s
  | .finite .., .infinity t => .infinity t
  | .finite s m e, .finite t k f =>
    let a := magnitude m e
    let b := magnitude k f
    let signed (negative : Bool) (n : Nat) : Int := if negative then -(n : Int) else n
    let sum := signed s (a.1 * b.2) + signed t (b.1 * a.2)
    if sum = 0 then zero (s && t) else ofRatio (sum < 0) sum.natAbs (a.2 * b.2)

/-- The product. -/
def mul : Binary64 → Binary64 → Binary64
  | .nan, _ => .nan
  | _, .nan => .nan
  | .infinity s, .infinity t => .infinity (s != t)
  | .infinity s, .finite t m _ => if m = 0 then .nan else .infinity (s != t)
  | .finite s m _, .infinity t => if m = 0 then .nan else .infinity (s != t)
  | .finite s m e, .finite t k f =>
    let a := magnitude m e
    let b := magnitude k f
    ofRatio (s != t) (a.1 * b.1) (a.2 * b.2)

/-- The integer that the number equals, if it equals one. -/
def toInt? : Binary64 → Option Int
  | .finite s m e =>
    let a := magnitude m e
    if a.1 % a.2 = 0 then
      let n : Int := (a.1 / a.2 : Nat)
      some (if s then -n else n)
    else none
  | _ => none

/-- The integer between zero and the number that is nearest to the number. -/
def truncate? : Binary64 → Option Int
  | .finite s m e =>
    let a := magnitude m e
    let n : Int := (a.1 / a.2 : Nat)
    some (if s then -n else n)
  | _ => none

/-- Two numbers are equal as values: the two zeros are, and nothing equals a NaN. -/
def sameNumber : Binary64 → Binary64 → Bool
  | .infinity s, .infinity t => s == t
  | .finite s m e, .finite t k f => (m == 0 && k == 0) || (s == t && m == k && e == f)
  | _, _ => false

/-- A numerator of zero gives the zero of the asked sign. -/
theorem ofRatio_zero (negative : Bool) (den : Nat) : ofRatio negative 0 den = zero negative := by
  simp [ofRatio]

end Binary64

end ReleaseRefs
