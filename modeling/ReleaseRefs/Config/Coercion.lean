import ReleaseRefs.Config.FieldError
import ReleaseRefs.Text.Utf8

/-!
# `ReleaseRefs.Config.Coercion`: which values an option takes for what it wants

Values from files and variables are taken generously: the word `yes` or the number one is a truth
value, `1_000` or `5.0` in quotes is a whole number. Texts and paths are never made from numbers.

- `truth`, `count`, `text`, `name`, `path` read a value as what an option wants.
- `name_not_blank`, `count_nonnegative`: what they yield meets the option's condition.
-/

set_option autoImplicit false

namespace ReleaseRefs.Config.Coercion

/-- The words for true, in lower case. -/
def trueWords : List String := ["1", "on", "t", "true", "y", "yes"]

/-- The words for false, in lower case. -/
def falseWords : List String := ["0", "off", "f", "false", "n", "no"]

/-- The truth value of a word, in any case of ASCII letters. -/
def truthOfWord? (s : String) : Option Bool :=
  let t := String.ofList (s.toList.map Char.toLower)
  if trueWords.contains t then some true
  else if falseWords.contains t then some false
  else none

/-- The truth value of a whole number. -/
def truthOfInt? (n : Int) : Option Bool :=
  if n = 0 then some false else if n = 1 then some true else none

/-- The numbers whose magnitude stays below the range of words. -/
def maxWhole : Nat := Nat.pow 2 63

/-- The whole number fits into a word of sixty-four bits. -/
def isWord (n : Int) : Bool := -maxWhole ≤ n && n < maxWhole

/-- The whole number that a double equals, unless it leaves the range of words. -/
def wholeOf? (x : Binary64) : Option Int :=
  x.toInt?.bind fun n => if n.natAbs < maxWhole then some n else none

def textOfBytes? (bs : List UInt8) : Option String := (Text.Utf8.decode bs).toOption

def truth (v : Value) : Except Complaint Bool :=
  let decided (b : Option Bool) (otherwise : Complaint) : Except Complaint Bool :=
    match b with
    | some b => .ok b
    | none => .error otherwise
  match v with
  | .bool b => .ok b
  | .int n => if isWord n then decided (truthOfInt? n) .truthText else .error .truthKind
  | .float x =>
    match wholeOf? x with
    | some n => decided (truthOfInt? n) .truthText
    | none => .error .truthKind
  | .text s => if Text.isWhole s then decided (truthOfWord? s) .truthText else .error .textEncoding
  | .bytes bs => decided ((textOfBytes? bs).bind truthOfWord?) .truthText
  | _ => .error .truthKind

/-- The rest of a numeral behind zeros in front, among which underscores may stand; `last` is the
zero or underscore before it. That one is kept where the numeral ends or a point follows. -/
def skipZeros? (last : Char) : List Char → Option (List Char)
  | [] => some [last]
  | c :: r =>
    if c = '0' ∨ c = '_' then skipZeros? c r
    else if ('1' ≤ c ∧ c ≤ '9') ∨ c = '-' then some (c :: r)
    else if c = '.' then some (last :: c :: r)
    else none

/-- A numeral without zeros in front. It starts with a digit or a sign. -/
def dropZeros? : List Char → Option (List Char)
  | [] => none
  | c :: r =>
    if c = '0' then skipZeros? '0' r
    else if ('1' ≤ c ∧ c ≤ '9') ∨ c = '-' then some (c :: r)
    else none

/-- The text in front of a point behind which there are only zeros; without a point, the text. -/
def dropZeroFraction? (cs : List Char) : Option (List Char) :=
  match Text.splitOnce '.' cs with
  | (whole, none) => some whole
  | (whole, some zeros) =>
    if !zeros.isEmpty && zeros.all (· == '0') then some whole else none

/-- The text without underscores, of which none may stand at an end or beside another. -/
def dropUnderscores? (cs : List Char) : Option (List Char) :=
  if cs.head? = some '_' ∨ cs.getLast? = some '_' ∨ Text.containsChars ['_', '_'] cs = true then
    none
  else some (cs.filter (· != '_'))

/-- A numeral without its sign, reduced to what counts. -/
def reduceNumeral? (cs : List Char) : Option (List Char) :=
  ((dropZeros? cs).bind dropZeroFraction?).bind dropUnderscores?

/-- A numeral reduced to what counts: white space around it, a plus, zeros in front, single
underscores between digits and a fraction of zeros do not. -/
def reduceWhole? (cs : List Char) : Option (List Char) :=
  match Text.stripWhere Text.isWhiteSpace cs with
  | '+' :: '-' :: _ => none
  | '+' :: r => reduceNumeral? r
  | '-' :: r => (reduceNumeral? r).map ('-' :: ·)
  | r => reduceNumeral? r

/-- The number of a row of digits, without zeros in front. -/
def naturalOf? (cs : List Char) : Option Nat :=
  if cs.isEmpty ∨ cs.all Char.isDigit = false ∨ (cs.head? = some '0' ∧ cs ≠ ['0']) then none
  else some (Text.ofDigits 10 (cs.filterMap Text.asciiDigitValue?))

/-- The number of a reduced numeral. -/
def integerOf? : List Char → Option Int
  | '-' :: r => (naturalOf? r).map fun n => -(n : Int)
  | r => (naturalOf? r).map Int.ofNat

/-- The text starts with more digits than an integer may have, of which the first is not zero. What
follows them does not matter. -/
def startsTooLong (cs : List Char) : Bool :=
  let digits := (if cs.head? = some '-' then cs.tail else cs).takeWhile Char.isDigit
  digits.head? != some '0' && Integer.maxDigits < digits.length

/-- A whole number written in digits. Only a text that is too long as it stands is said to be. -/
def countOfText (s : String) : Except Complaint Int :=
  if startsTooLong s.toList then .error .integerSize
  else
    match reduceWhole? s.toList with
    | none => .error .integerText
    | some cs =>
      if startsTooLong cs then .error .integerText
      else
        match integerOf? cs with
        | some n => .ok n
        | none => .error .integerText

/-- A value as a whole number. -/
def whole (v : Value) : Except Complaint Int :=
  match v with
  | .bool b => .ok (if b then 1 else 0)
  | .int n => .ok n
  | .float x =>
    match x with
    | .nan => .error .integerFinite
    | .infinity _ => .error .integerFinite
    | _ =>
      match x.toInt? with
      | none => .error .integerFraction
      | some n => if n.natAbs < maxWhole then .ok n else .error .integerSize
  | .text s => if Text.isWhole s then countOfText s else .error .textEncoding
  | .bytes bs =>
    match textOfBytes? bs with
    | some s => countOfText s
    | none => .error .integerText
  | _ => .error .integerKind

/-- A value as a number of times. -/
def count (v : Value) : Except Complaint Int :=
  match whole v with
  | .ok n => if n < 0 then .error .negative else .ok n
  | .error e => .error e

def text (v : Value) : Except Complaint String :=
  match v with
  | .text s => .ok s
  | .bytes bs =>
    match textOfBytes? bs with
    | some s => .ok s
    | none => .error .textEncoding
  | _ => .error .textKind

/-- A value as a name, which must not be blank. -/
def name (v : Value) : Except Complaint String :=
  match text v with
  | .ok s => if Text.isBlankText s then .error .blank else .ok s
  | .error e => .error e

def path (v : Value) : Except Complaint Path :=
  match v with
  | .path p => .ok p
  | .text s => .ok (Path.ofText s)
  | _ => .error .pathKind

/-- A name that is taken is not blank. -/
theorem name_not_blank {v : Value} {s : String} (h : name v = .ok s) :
    Text.isBlankText s = false := by
  unfold name at h
  split at h
  · split at h
    · cases h
    · cases h
      simp_all
  · cases h

/-- A number of times that is taken is not negative. -/
theorem count_nonnegative {v : Value} {n : Int} (h : count v = .ok n) : 0 ≤ n := by
  unfold count at h
  split at h
  · split at h
    · cases h
    · cases h
      omega
  · cases h

end ReleaseRefs.Config.Coercion
