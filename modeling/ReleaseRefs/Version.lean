import ReleaseRefs.Decimal.Notation
import ReleaseRefs.Text.Split

/-!
# `ReleaseRefs.Version`: semantic versions

A version is `major.minor.patch`, then perhaps `-` and a prerelease, then perhaps `+` and build
metadata. The three numbers have no leading zeros; prerelease and build are identifiers joined by
dots, and an identifier of a prerelease that consists of digits alone has no leading zero either.

- `Version.parse?` reads a version, `Version.text` writes it.
-/

set_option autoImplicit false

namespace ReleaseRefs

/-- A semantic version. -/
structure Version where
  major : Nat
  minor : Nat
  patch : Nat
  prerelease : Option String
  build : Option String
  deriving DecidableEq, Repr

namespace Version

/-- A letter, digit or dash of ASCII. -/
def isIdentifierChar (c : Char) : Bool := c.isAlphanum || c == '-'

/-- Digits without a leading zero; zero itself is one digit. -/
def isNumeral : List Char → Bool
  | [] => false
  | ['0'] => true
  | c :: r => c != '0' && (c :: r).all Char.isDigit

/-- One or more letters, digits and dashes. -/
def isBuildIdentifier (cs : List Char) : Bool := !cs.isEmpty && cs.all isIdentifierChar

/-- An identifier that is a numeral if it holds digits only. -/
def isPrereleaseIdentifier (cs : List Char) : Bool :=
  isBuildIdentifier cs && (!cs.all Char.isDigit || isNumeral cs)

/-- The number of a numeral with at most the given number of digits. -/
def readNumeral? (cs : List Char) : Option Nat :=
  if isNumeral cs ∧ cs.length ≤ Integer.maxDigits then
    some (Text.ofDigits 10 (cs.filterMap Text.asciiDigitValue?))
  else none

/-- A part behind its separator: absent, or identifiers joined by dots. -/
def readPart? (valid : List Char → Bool) : Option (List Char) → Option (Option String)
  | none => some none
  | some cs =>
    if (Text.splitAt '.' cs).all valid then some (some (String.ofList cs)) else none

/-- Reads a version. The first `+` starts the build metadata, and before it the first `-` starts
the prerelease, because the numbers hold neither and the prerelease holds no `+`. -/
def parseChars? (cs : List Char) : Option Version := do
  let whole := Text.splitOnce '+' cs
  let front := Text.splitOnce '-' whole.1
  match Text.splitAt '.' front.1 with
  | [a, b, c] =>
    let major ← readNumeral? a
    let minor ← readNumeral? b
    let patch ← readNumeral? c
    let prerelease ← readPart? isPrereleaseIdentifier front.2
    let build ← readPart? isBuildIdentifier whole.2
    some ⟨major, minor, patch, prerelease, build⟩
  | _ => none

/-- Reads a version. -/
def parse? (s : String) : Option Version := parseChars? s.toList

/-- The three numbers joined by dots. -/
def core (v : Version) : String :=
  toString v.major ++ "." ++ toString v.minor ++ "." ++ toString v.patch

def text (v : Version) : String :=
  v.core ++ (match v.prerelease with | some p => "-" ++ p | none => "") ++
    (match v.build with | some b => "+" ++ b | none => "")

end Version

end ReleaseRefs
