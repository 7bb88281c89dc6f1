import ReleaseRefs.Decimal.Shortest
import ReleaseRefs.Text.Blank
import ReleaseRefs.Text.Quoted

/-!
# `ReleaseRefs.Decimal.Notation`: reading and writing numbers as text

- `Binary64.text` writes the fewest digits that read back: positional for magnitudes from `10⁻⁴`
  to below `10¹⁶`, with an exponent of at least two digits otherwise.
- `Binary64.fixed`, `Binary64.scientific`, `Binary64.general` write a given number of digits.
- `Binary64.read?` reads a decimal numeral, and `Integer.read` an integer.
-/

set_option autoImplicit false

namespace ReleaseRefs

namespace Decimal

def digitChar (d : Nat) : Char := Char.ofNat (48 + d)

/-- A row of digits as text. -/
def digitText (ds : List Nat) : String := String.ofList (ds.map digitChar)

/-- An exponent with its sign and at least two digits. -/
def exponentText (e : Int) : String :=
  let ds := Nat.toDigits 10 e.natAbs
  (if e < 0 then "e-" else "e+") ++ String.ofList (if ds.length < 2 then '0' :: ds else ds)

/-- Digits in positional notation, with at least one digit after the point. -/
def positional (d : Digits) : String :=
  let n : Int := d.digits.length
  if d.point ≤ 0 then
    "0." ++ String.ofList (List.replicate (-d.point).toNat '0') ++ digitText d.digits
  else if n ≤ d.point then
    digitText d.digits ++ String.ofList (List.replicate (d.point - n).toNat '0') ++ ".0"
  else
    digitText (d.digits.take d.point.toNat) ++ "." ++ digitText (d.digits.drop d.point.toNat)

/-- Digits with one of them before the point, and an exponent. -/
def withExponent (d : Digits) : String :=
  let tail := d.digits.drop 1
  digitText (d.digits.take 1) ++ (if tail.isEmpty then "" else "." ++ digitText tail) ++
    exponentText (d.point - 1)

/-- The notation of shortest digits: positional while the point stands within the first sixteen
digits or up to three zeros before them. -/
def shortestText (d : Digits) : String :=
  if -4 < d.point ∧ d.point ≤ 16 then positional d else withExponent d

/-- A numeral: its sign, the digits as one number, and the power of ten to scale it by. -/
structure Numeral where
  negative : Bool
  significand : Nat
  exponent : Int
  deriving DecidableEq, Repr

/-- The double nearest to a numeral. An exponent far outside the range decides by itself. -/
def Numeral.toBinary64 (n : Numeral) : Binary64 :=
  if n.significand = 0 then .zero n.negative
  else
    let size : Int := (Nat.log2 n.significand) * 30103 / 100000 + n.exponent
    if 400 < size then .infinity n.negative
    else if size < -400 then .zero n.negative
    else if 0 ≤ n.exponent then
      .ofRatio n.negative (n.significand * Nat.pow 10 n.exponent.toNat) 1
    else .ofRatio n.negative n.significand (Nat.pow 10 (-n.exponent).toNat)

/-- Splits a sign off. -/
def takeSign : List Char → Bool × List Char
  | '-' :: r => (true, r)
  | '+' :: r => (false, r)
  | r => (false, r)

/-- The values of the ASCII digits at the front, and what follows them. -/
def takeDigits (cs : List Char) : List Nat × List Char :=
  ((cs.takeWhile Char.isDigit).filterMap Text.asciiDigitValue?, cs.dropWhile Char.isDigit)

/-- The exponent part of a numeral, which must end the text. -/
def readExponent? : List Char → Option Int
  | [] => some 0
  | c :: r =>
    if c = 'e' ∨ c = 'E' then
      let s := takeSign r
      let d := takeDigits s.2
      if d.1.isEmpty ∨ ¬ d.2.isEmpty then none
      else
        let n : Int := Text.ofDigits 10 d.1
        some (if s.1 then -n else n)
    else none

/-- A numeral in ASCII digits: an optional sign, digits with an optional point among or around
them, an optional exponent. -/
def readNumeral? (cs : List Char) : Option Numeral :=
  let s := takeSign cs
  let whole := takeDigits s.2
  let part : List Nat × List Char := match whole.2 with
    | '.' :: r => takeDigits r
    | r => ([], r)
  if whole.1.isEmpty ∧ part.1.isEmpty then none
  else
    (readExponent? part.2).map fun e =>
      ⟨s.1, Text.ofDigits 10 (whole.1 ++ part.1), e - part.1.length⟩

/-- Every digit of any script becomes the ASCII digit of its value. -/
def asciiDigits (cs : List Char) : List Char :=
  cs.map fun c => match Text.digitValue? c with
    | some d => digitChar d
    | none => c

/-- The characters without underscores, each of which must stand between two digits. -/
def joinUnderscores? : (afterDigit : Bool) → List Char → Option (List Char)
  | _, [] => some []
  | afterDigit, '_' :: r =>
    match r with
    | c :: _ => if afterDigit && c.isDigit then joinUnderscores? false r else none
    | [] => none
  | _, c :: r => (joinUnderscores? c.isDigit r).map (c :: ·)

end Decimal

namespace Binary64

/-- The fewest digits that read back as the number. -/
def text : Binary64 → String
  | .nan => "nan"
  | .infinity s => if s then "-inf" else "inf"
  | .finite s m e =>
    (if s then "-" else "") ++ if m = 0 then "0.0" else Decimal.shortestText (shortest m e)

/-- The magnitude rounded to a number of decimal places, as digits before and after the point. -/
def roundPlaces (m : Nat) (e : Int) (places : Nat) : List Nat × List Nat :=
  let a := magnitude m e
  let ds := Decimal.digitsOf (roundDiv (a.1 * Nat.pow 10 places) a.2)
  let padded := List.replicate (places + 1 - ds.length) 0 ++ ds
  (padded.take (padded.length - places), padded.drop (padded.length - places))

/-- The magnitude with a number of decimal places. -/
def fixed (m : Nat) (e : Int) (places : Nat) : String :=
  let r := roundPlaces m e places
  Decimal.digitText r.1 ++ if places = 0 then "" else "." ++ Decimal.digitText r.2

/-- The magnitude rounded to `count` significant digits, with the place of the point. -/
def roundDigits (m : Nat) (e : Int) (count : Nat) : Digits :=
  if m = 0 then ⟨List.replicate count 0, 1⟩
  else
    let a := magnitude m e
    let point := Decimal.pointOf a.1 a.2
    let s := Decimal.scaleTen a.1 a.2 (point - count)
    let ds := Decimal.digitsOf (roundDiv s.1 s.2)
    if count < ds.length then ⟨ds.take count, point + 1⟩ else ⟨ds, point⟩

/-- The magnitude with one digit before the point, `places` after it, and an exponent. -/
def scientific (m : Nat) (e : Int) (places : Nat) : String :=
  Decimal.withExponent (roundDigits m e (places + 1))

/-- The magnitude with `count` significant digits, positional where the exponent lies between
`-4` and `count`; zeros at the end are dropped unless `keepZeros` asks for them. -/
def general (m : Nat) (e : Int) (count : Nat) (keepZeros : Bool) : String :=
  let n := max count 1
  let d := roundDigits m e n
  let ds := if keepZeros then d.digits else
    let t := Decimal.trimZeros d.digits
    if t.isEmpty then [0] else t
  let shown : Digits := ⟨ds, d.point⟩
  if -4 < d.point ∧ d.point ≤ n then
    let t := Decimal.positional shown
    if (ds.length : Int) ≤ d.point ∧ ¬ keepZeros then
      String.ofList (t.toList.dropLast.dropLast)
    else if (ds.length : Int) ≤ d.point then String.ofList t.toList.dropLast
    else t
  else Decimal.withExponent shown

/-- A number in decimal: white space around it is allowed, digits of every script, underscores
between digits, and the names of infinity and NaN in any case. -/
def read? (cs : List Char) : Option Binary64 :=
  let body := Decimal.asciiDigits (Text.stripWhere Text.isWhiteSpace cs)
  let s := Decimal.takeSign body
  let name := String.ofList (s.2.map Char.toLower)
  if name = "inf" ∨ name = "infinity" then some (.infinity s.1)
  else if name = "nan" then some .nan
  else ((Decimal.joinUnderscores? false body).bind Decimal.readNumeral?).map
    Decimal.Numeral.toBinary64

end Binary64

namespace Integer

/-- Why a text is not an integer. -/
inductive ReadError where
  /-- The text is no numeral in the base. -/
  | malformed
  /-- The numeral has more digits than are read. -/
  | tooLong (digits : Nat)
  deriving DecidableEq, Repr

/-- The most digits that a decimal numeral may have, to be read or to be written. -/
def maxDigits : Nat := 4300

/-- A decimal integer: white space around it is allowed, a sign, digits of every script, and
underscores between digits. -/
def read (cs : List Char) : Except ReadError Int :=
  let s := Decimal.takeSign (Decimal.asciiDigits (Text.stripWhere Text.isWhiteSpace cs))
  match Decimal.joinUnderscores? false s.2 with
  | none => .error .malformed
  | some ds =>
    if ds.isEmpty ∨ ¬ ds.all Char.isDigit then .error .malformed
    else if maxDigits < ds.length then .error (.tooLong ds.length)
    else
      let n : Int := Text.ofDigits 10 (ds.filterMap Text.asciiDigitValue?)
      .ok (if s.1 then -n else n)

/-- How many characters of a malformed numeral are shown, the quotes among them. -/
def shownSize : Nat := 200

/-- The message for a text that is no numeral in a base; only its beginning is shown. -/
def malformedMessage (base : Nat) (shown : String) : String :=
  "invalid literal for int() with base " ++ toString base ++ ": " ++
    String.ofList ((Text.quoted shown).toList.take shownSize)

/-- The message about more digits than are read or written; `found` tells how many there are. -/
def limitMessage (found : String) : String :=
  "Exceeds the limit (" ++ toString maxDigits ++ " digits) for integer string conversion" ++
    found ++ "; use sys.set_int_max_str_digits() to increase the limit"

/-- The message for a text that is not an integer. -/
def ReadError.message (shown : String) : ReadError → String
  | .malformed => malformedMessage 10 shown
  | .tooLong n => limitMessage (": value has " ++ toString n ++ " digits")

/-- The integer has no more digits than are written. -/
def isWritable (n : Int) : Bool := n.natAbs < Nat.pow 10 maxDigits

end Integer

end ReleaseRefs
