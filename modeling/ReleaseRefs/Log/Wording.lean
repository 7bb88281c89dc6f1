import ReleaseRefs.Failure
import ReleaseRefs.Log.Template

/-!
# `ReleaseRefs.Log.Wording`: filling the marks of a wording

- `fill` puts arguments in place of the marks of a wording, in order, or by key where the only
  argument is a mapping.
- `fill_nil`: without arguments a wording stays as it is, percent signs included.
-/

set_option autoImplicit false

namespace ReleaseRefs.Log

open Template

/-- The arguments that are still to be used. -/
inductive Supply where
  /-- A row, of which every member has to be used. -/
  | row (rest : List Value)
  /-- A mapping, which is looked up by key; `current` is what the next mark without a key takes. -/
  | mapping (entries : Entries) (current : Option Value)
  /-- A list as the only argument, which need not be used and has no keys. -/
  | alone (current : Option Value)

namespace Supply

/-- The arguments of an event: one mapping that is not empty is looked up by key. -/
def ofArgs : List Value → Supply
  | [.map (e :: es)] => .mapping (e :: es) (some (.map (e :: es)))
  | args => .row args

/-- The arguments that a value stands for, if it stands for any: a list is one argument unless it
has nothing but one mapping, and a mapping of one entry is taken for a row and has no first
member. -/
def ofValue : Value → Except Failure (Option Supply)
  | .null => .ok none
  | .text s => .ok (if s.isEmpty then none else some (.row [.text s]))
  | .list [] => .ok none
  | .list [.map (e :: es)] => .ok (some (ofArgs [.map (e :: es)]))
  | .list xs => .ok (some (.alone (some (.list xs))))
  | .map [] => .ok none
  | .map [_] => .error (.fault .lookup "0")
  | .map es => .ok (some (.mapping es (some (.map es))))
  | v =>
    if v.isZero then .ok none
    else .error (.fault .type ("object of type '" ++ v.kindName ++ "' has no len()"))

/-- The next argument. -/
def next : Supply → Except Failure (Value × Supply)
  | .row (v :: rest) => .ok (v, .row rest)
  | .mapping es (some v) => .ok (v, .mapping es none)
  | .alone (some v) => .ok (v, .alone none)
  | _ => .error (.fault .type "not enough arguments for format string")

/-- Makes the argument under the key of a mark the next one. -/
def select (key : Key) (s : Supply) : Except Failure Supply :=
  match key, s with
  | .next, _ => .ok s
  | _, .row _ => .error (.fault .type "format requires a mapping")
  | .unclosed, _ => .error (.fault .value "incomplete format key")
  | .named _, .alone _ =>
    .error (.fault .type "list indices must be integers or slices, not str")
  | .named name, .mapping es _ =>
    match es.getText? name with
    | some v => .ok (.mapping es (some v))
    | none => .error (.fault .key name)

/-- An argument of a row was not used. -/
def isLeftOver : Supply → Bool
  | .row (_ :: _) => true
  | _ => false

end Supply

/-- What bounds a width or a precision. -/
structure Bound where
  /-- The greatest number allowed. -/
  most : Nat
  /-- The word for such a number, and the name of the integers up to the bound. -/
  word : String
  integers : String

/-- A width fits the signed integers of 64 bits. -/
def widthBound : Bound := ⟨Nat.pow 2 63 - 1, "width", "C ssize_t"⟩

/-- A precision fits the signed integers of 32 bits. -/
def precisionBound : Bound := ⟨Nat.pow 2 31 - 1, "precision", "C int"⟩

/-- A width or precision, if there is one, and the arguments that are left. Numbers below zero come
from arguments alone. -/
def amount (b : Bound) (a : Amount) (s : Supply) : Except Failure (Option Int × Supply) :=
  match a with
  | .absent => .ok (none, s)
  | .given n =>
    if b.most < n then .error (.fault .value (b.word ++ " too big")) else .ok (some n, s)
  | .argument => do
    let (v, rest) ← s.next
    let n ← match v with
      | .int n => pure n
      | .bool t => pure (if t then 1 else 0)
      | _ => .error (.fault .type "* wants int")
    if b.most < n ∨ n < -b.most - 1 then
      .error (.fault .overflow ("Python int too large to convert to " ++ b.integers))
    else return (some n, rest)

/-- How the text of an argument is laid out. -/
structure Layout where
  flags : List Char
  width : Nat
  precision : Option Nat

namespace Layout

/-- The text stands at the left end. -/
def isLeft (l : Layout) : Bool := l.flags.contains '-'

/-- Other notations are marked as such. -/
def isMarked (l : Layout) : Bool := l.flags.contains '#'

/-- Text padded with blanks to the width. -/
def padText (l : Layout) (s : String) : String :=
  let gap := "".pushn ' ' (l.width - Text.size s)
  if l.isLeft then s ++ gap else gap ++ s

/-- The sign of a number: that of a positive one is shown only if asked for. -/
def sign (l : Layout) (negative : Bool) : String :=
  if negative then "-"
  else if l.flags.contains '+' then "+"
  else if l.flags.contains ' ' then " "
  else ""

/-- A number padded to the width: with blanks around it, or with zeros behind its sign and the mark
of its base. -/
def padNumber (l : Layout) (negative : Bool) (base digits : String) : String :=
  let head := l.sign negative ++ base
  if l.flags.contains '0' && !l.isLeft then
    head ++ "".pushn '0' (l.width - (head ++ digits).length) ++ digits
  else l.padText (head ++ digits)

end Layout

/-- Every character outside ASCII as a numeric escape. -/
def asciiOnly (s : String) : String :=
  String.ofList ((Text.codePoints s.toList).flatMap fun n =>
    if n < 0x80 then [Char.ofNat n]
    else if n < 0x100 then '\\' :: 'x' :: Text.hexText 2 n
    else if n < 0x10000 then '\\' :: 'u' :: Text.hexText 4 n
    else '\\' :: 'U' :: Text.hexText 8 n)

/-- The integer that a mark with a letter shows of an argument. -/
def wholeOf (letter : Char) (v : Value) : Except Failure Int :=
  let wanted :=
    if letter = 'd' ∨ letter = 'i' ∨ letter = 'u' then "a real number" else "an integer"
  let unfit : Except Failure Int := .error (.fault .type ("%" ++ String.singleton letter ++
    " format: " ++ wanted ++ " is required, not " ++ v.kindName))
  match v with
  | .int n => .ok n
  | .bool b => .ok (if b then 1 else 0)
  | .float x =>
    if wanted = "an integer" then unfit
    else
      match x with
      | .nan => .error (.fault .value "cannot convert float NaN to integer")
      | .infinity _ => .error (.fault .overflow "cannot convert float infinity to integer")
      | .finite .. => .ok (x.truncate?.getD 0)
  | _ => unfit

/-- An integer in the base of a letter: `o` is eight, `x` and `X` are sixteen. -/
def wholeText (l : Layout) (letter : Char) (n : Int) : String :=
  let lower := letter.toLower
  let base := if lower = 'o' then 8 else if lower = 'x' then 16 else 10
  let raise := fun c : Char => if letter = 'X' then c.toUpper else c
  let digits := (Nat.toDigits base n.natAbs).map raise
  let filled := List.replicate (l.precision.getD 0 - digits.length) '0' ++ digits
  let head := if l.isMarked && base != 10 then ['0', letter] else []
  l.padNumber (n < 0) (String.ofList head) (String.ofList filled)

/-- The double that a mark shows of an argument. -/
def realOf (v : Value) : Except Failure Binary64 :=
  match v with
  | .float x => .ok x
  | .bool b => .ok (.ofInt (if b then 1 else 0))
  | .int n =>
    match Binary64.ofInt n with
    | .infinity _ => .error (.fault .overflow "int too large to convert to float")
    | x => .ok x
  | _ => .error (.fault .type ("must be real number, not " ++ v.kindName))

/-- A numeral with a point behind its digits, if it has none. -/
def withPoint (s : String) : String :=
  let cs := s.toList
  if cs.contains '.' then s
  else String.ofList (cs.takeWhile Char.isDigit ++ '.' :: cs.dropWhile Char.isDigit)

/-- A double in the notation of a letter: `f` is positional, `e` has an exponent, `g` chooses. -/
def realText (l : Layout) (letter : Char) (x : Binary64) : String :=
  let places := l.precision.getD 6
  let finite := fun (m : Nat) (e : Int) =>
    let text := match letter.toLower with
      | 'f' => Binary64.fixed m e places
      | 'e' => Binary64.scientific m e places
      | _ => Binary64.general m e places l.isMarked
    if l.isMarked then withPoint text else text
  let (negative, digits) := match x with
    | .nan => (false, "nan")
    | .infinity s => (s, "inf")
    | .finite s m e => (s, finite m e)
  let raised := if letter.isUpper then digits.map Char.toUpper else digits
  l.padNumber negative "" raised

/-- The one character that a mark shows of an argument. -/
def characterOf (v : Value) : Except Failure String :=
  let unfit : Except Failure String := .error (.fault .type "%c requires int or char")
  let ofNumber := fun n : Int =>
    if 0 ≤ n ∧ n < 0x110000 then .ok (String.ofList (Text.carry n.toNat))
    else .error (.fault .overflow "%c arg not in range(0x110000)")
  match v with
  | .int n => ofNumber n
  | .bool b => ofNumber (if b then 1 else 0)
  | .text s => if Text.size s = 1 then .ok s else unfit
  | _ => unfit

/-- The message for a letter that names no conversion. -/
def unknownLetter (n index : Nat) : String :=
  let shown := if 31 ≤ n ∧ n ≤ 126 then Char.ofNat n else '?'
  "unsupported format character '" ++ String.singleton shown ++ "' (0x" ++
    String.ofList (Nat.toDigits 16 n) ++ ") at index " ++ toString index

/-- An argument as the letter with a code point shows it; `index` is where the letter stands. -/
def convert (l : Layout) (n index : Nat) (v : Value) : Except Failure String :=
  let cut := fun s : String =>
    match l.precision with
    | some n => Text.cut n s
    | none => s
  let letter := Char.ofNat n
  match letter with
  | 's' => .ok (l.padText (cut v.display))
  | 'r' => .ok (l.padText (cut v.literal))
  | 'a' => .ok (l.padText (cut (asciiOnly v.literal)))
  | 'c' => (characterOf v).map l.padText
  | 'd' | 'i' | 'u' | 'o' | 'x' | 'X' => (wholeOf letter v).map (wholeText l letter)
  | 'e' | 'E' | 'f' | 'F' | 'g' | 'G' => (realOf v).map (realText l letter)
  | _ => .error (.fault .value (unknownLetter n index))

/-- What stands for one mark of a wording of `size` code points, and the arguments that are left. -/
def fillMark (size : Nat) (m : Mark) (s : Supply) : Except Failure (String × Supply) := do
  let s ← s.select m.key
  let (width, s) ← amount widthBound m.width s
  let (precision, s) ← amount precisionBound m.precision s
  match m.letter with
  | none => .error (.fault .value "incomplete format")
  | some (letter, behind) =>
    let (v, s) ← s.next
    let toLeft := match width with
      | some n => decide (n < 0)
      | none => false
    let l : Layout := ⟨if toLeft then '-' :: m.flags else m.flags, (width.getD 0).natAbs,
      precision.map Int.toNat⟩
    return (← convert l letter (size - behind - 1) v, s)

/-- What stands for a row of pieces. -/
def fillPieces (size : Nat) : List Piece → Supply → Except Failure String
  | [], s =>
    if s.isLeftOver then
      .error (.fault .type "not all arguments converted during string formatting")
    else .ok ""
  | .literal c :: r, s => do return String.singleton c ++ (← fillPieces size r s)
  | .mark m :: r, s => do
    let (shown, s) ← fillMark size m s
    return shown ++ (← fillPieces size r s)

/-- A wording with its marks filled. Without arguments it stays as it is. -/
def fillWith (wording : String) : Option Supply → Except Failure String
  | none => .ok wording
  | some s => fillPieces (Text.size wording) (pieces wording.toList) s

/-- A wording with its marks filled from a row of arguments, which may be empty. -/
def fill (wording : String) (args : List Value) : Except Failure String :=
  fillWith wording (if args.isEmpty then none else some (.ofArgs args))

/-- An event without arguments has its wording as it is. -/
theorem fill_nil (wording : String) : fill wording [] = .ok wording := rfl

end ReleaseRefs.Log
