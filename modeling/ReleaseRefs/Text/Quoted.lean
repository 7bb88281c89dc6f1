import ReleaseRefs.Text.CodePoint
import ReleaseRefs.Text.Digit
import ReleaseRefs.Text.Printable

/-!
# `ReleaseRefs.Text.Quoted`: text and bytes between quotes

Messages show names in quotes, with every character that has no visible form escaped.

- `quoted` writes a text: single quotes, unless the text has a single and no double quote.
- `quotedBytes` writes bytes under the letter `b`, with everything outside ASCII escaped.
- `escapedAscii` writes a text between double quotes in ASCII alone, as JSON wants it.
-/

set_option autoImplicit false

namespace ReleaseRefs.Text

/-- The number in base sixteen with at least `width` digits. -/
def hexText (width n : Nat) : List Char :=
  let digits := Nat.toDigits 16 n
  List.replicate (width - digits.length) '0' ++ digits

/-- The quote to put around characters: double only if a single one occurs and no double one. -/
def quoteFor (cs : List Char) : Char :=
  if cs.contains '\'' && !cs.contains '"' then '"' else '\''

/-- One code point inside quotes: the quote and the backslash behind a backslash, the usual letters
for tab and line ends, the shortest numeric escape for what cannot be shown. -/
def quotedPoint (quote : Char) (n : Nat) : List Char :=
  let c := Char.ofNat n
  if isHalf n then '\\' :: 'u' :: hexText 4 n
  else if c = quote ∨ c = '\\' then ['\\', c]
  else if c = '\n' then ['\\', 'n']
  else if c = '\r' then ['\\', 'r']
  else if c = '\t' then ['\\', 't']
  else if isPrintable c then [c]
  else if n < 0x100 then '\\' :: 'x' :: hexText 2 n
  else if n < 0x10000 then '\\' :: 'u' :: hexText 4 n
  else '\\' :: 'U' :: hexText 8 n

def quoted (s : String) : String :=
  let cs := s.toList
  let q := quoteFor cs
  String.ofList (q :: (codePoints cs).flatMap (quotedPoint q) ++ [q])

/-- One byte inside quotes. -/
def quotedByte (quote : Char) (b : UInt8) : List Char :=
  let c := Char.ofNat b.toNat
  if c = quote ∨ c = '\\' then ['\\', c]
  else if c = '\n' then ['\\', 'n']
  else if c = '\r' then ['\\', 'r']
  else if c = '\t' then ['\\', 't']
  else if 0x20 ≤ b ∧ b < 0x7F then [c]
  else '\\' :: 'x' :: hexText 2 b.toNat

/-- Bytes in quotes, marked by the letter `b`. -/
def quotedBytes (bs : List UInt8) : String :=
  let q := quoteFor (bs.map fun b => Char.ofNat b.toNat)
  String.ofList ('b' :: q :: bs.flatMap (quotedByte q) ++ [q])

/-- The text with halves as numeric escapes, so that only characters are left. -/
def escapedHalves (s : String) : String :=
  if isWhole s then s
  else String.ofList ((codePoints s.toList).flatMap fun n =>
    if isHalf n then '\\' :: 'u' :: hexText 4 n else carry n)

/-- A text without halves stays as it is. -/
theorem escapedHalves_of_isWhole (s : String) (h : isWhole s = true) : escapedHalves s = s := by
  simp [escapedHalves, h]

/-- One code point of an ASCII text between double quotes: beyond U+FFFF as two UTF-16 units, a half
as one. -/
def escapedAsciiPoint (n : Nat) : List Char :=
  let c := Char.ofNat n
  if c = '"' ∨ c = '\\' then ['\\', c]
  else if c = '\n' then ['\\', 'n']
  else if c = '\r' then ['\\', 'r']
  else if c = '\t' then ['\\', 't']
  else if c = '\x08' then ['\\', 'b']
  else if c = '\x0c' then ['\\', 'f']
  else if 0x20 ≤ n ∧ n ≤ 0x7E then [c]
  else if n < 0x10000 then '\\' :: 'u' :: hexText 4 n
  else
    let m := n - 0x10000
    '\\' :: 'u' :: hexText 4 (0xD800 + m / 0x400) ++
      '\\' :: 'u' :: hexText 4 (0xDC00 + m % 0x400)

/-- A text between double quotes, in ASCII. -/
def escapedAscii (s : String) : String :=
  String.ofList ('"' :: (codePoints s.toList).flatMap escapedAsciiPoint ++ ['"'])

end ReleaseRefs.Text
