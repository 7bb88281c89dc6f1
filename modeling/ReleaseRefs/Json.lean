import ReleaseRefs.Value

/-!
# `ReleaseRefs.Json`: values as JSON text

- `Json.read` reads one value; numbers with a point or an exponent are doubles, the others are
  integers, and of several members with one name the last decides.
- `Json.render` writes a value on one line in ASCII.
-/

set_option autoImplicit false

namespace ReleaseRefs.Json

/-- Why a text is not JSON. -/
inductive ReadError where
  /-- The text does not follow the grammar. -/
  | malformed
  /-- An integer has more digits than are read. -/
  | tooLong (e : Integer.ReadError)
  /-- Arrays and objects lie too deep inside each other. It says whether the last is an object. -/
  | tooDeep (object : Bool)
  deriving DecidableEq, Repr

/-- What a reading step yields: a result and the rest of the text. -/
abbrev Step (α : Type) := Except ReadError (α × List Char)

/-- White space between the tokens of JSON. -/
def isGap (c : Char) : Bool := c == ' ' || c == '\t' || c == '\n' || c == '\r'

/-- The text behind leading white space. -/
def skipGap (cs : List Char) : List Char := cs.dropWhile isGap

/-- The number that four digits of base sixteen stand for. -/
def hex4? : List Char → Option (Nat × List Char)
  | a :: b :: c :: d :: r => do
    let w ← Text.hexValue? a
    let x ← Text.hexValue? b
    let y ← Text.hexValue? c
    let z ← Text.hexValue? d
    some (w * 4096 + x * 256 + y * 16 + z, r)
  | _ => none

/-- The code point for a first UTF-16 unit and what follows it: a high unit joins a low one that is
escaped right behind it, and a unit without partner stays a half. -/
def joinUnits (n : Nat) (r : List Char) : Nat × List Char :=
  if 0xD800 ≤ n ∧ n < 0xDC00 then
    match r with
    | '\\' :: 'u' :: s =>
      match hex4? s with
      | some (m, t) =>
        if 0xDC00 ≤ m ∧ m < 0xE000 then
          (0x10000 + (n - 0xD800) * 0x400 + (m - 0xDC00), t)
        else (n, r)
      | none => (n, r)
    | _ => (n, r)
  else (n, r)

/-- The character that one letter behind a backslash stands for. -/
def simpleEscape? (c : Char) : Option Char :=
  if c = '"' ∨ c = '\\' ∨ c = '/' then some c
  else if c = 'b' then some '\x08'
  else if c = 'f' then some '\x0c'
  else if c = 'n' then some '\n'
  else if c = 'r' then some '\r'
  else if c = 't' then some '\t'
  else none

/-- The characters of a string up to its closing quote; the opening one is already read. -/
def readString : (fuel : Nat) → (acc : List Char) → List Char → Step String
  | 0, _, _ => .error .malformed
  | fuel + 1, acc, cs =>
    match cs with
    | [] => .error .malformed
    | '"' :: r => .ok (String.ofList acc.reverse, r)
    | '\\' :: 'u' :: r =>
      match hex4? r with
      | some (n, s) =>
        let j := joinUnits n s
        readString fuel ((Text.carry j.1).reverse ++ acc) j.2
      | none => .error .malformed
    | '\\' :: c :: r =>
      match simpleEscape? c with
      | some d => readString fuel (d :: acc) r
      | none => .error .malformed
    | c :: r => if c.toNat < 0x20 then .error .malformed else readString fuel (c :: acc) r

/-- The fraction of a number, if digits follow the point. -/
def takeFraction : List Char → List Char × List Char
  | '.' :: c :: r =>
    if c.isDigit then ('.' :: c :: r.takeWhile Char.isDigit, r.dropWhile Char.isDigit)
    else ([], '.' :: c :: r)
  | r => ([], r)

/-- The exponent of a number, if digits follow its letter and sign. -/
def takeExponent (cs : List Char) : List Char × List Char :=
  match cs with
  | e :: r =>
    if e = 'e' ∨ e = 'E' then
      let sign := r.takeWhile fun c => c == '+' || c == '-'
      let rest := r.drop sign.length
      if sign.length ≤ 1 && !(rest.takeWhile Char.isDigit).isEmpty then
        (e :: sign ++ rest.takeWhile Char.isDigit, rest.dropWhile Char.isDigit)
      else ([], cs)
    else ([], cs)
  | [] => ([], cs)

/-- The whole part of a number: a single zero, or digits that start with none. -/
def takeWhole : List Char → List Char × List Char
  | '0' :: r => (['0'], r)
  | r => (r.takeWhile Char.isDigit, r.dropWhile Char.isDigit)

/-- A number: an integer if it has neither fraction nor exponent, a double otherwise. -/
def readNumber (cs : List Char) : Step Value :=
  let sign := cs.takeWhile (· == '-')
  let whole := takeWhole (cs.drop sign.length)
  if 1 < sign.length ∨ whole.1.isEmpty then .error .malformed
  else
    let fraction := takeFraction whole.2
    let exponent := takeExponent fraction.2
    if fraction.1.isEmpty ∧ exponent.1.isEmpty then
      match Integer.read (sign ++ whole.1) with
      | .ok n => .ok (.int n, whole.2)
      | .error e => .error (.tooLong e)
    else
      match Decimal.readNumeral? (sign ++ whole.1 ++ fraction.1 ++ exponent.1) with
      | some n => .ok (.float n.toBinary64, exponent.2)
      | none => .error .malformed

/-- The fixed words of JSON, those for the special doubles included. -/
def words : List (String × Value) :=
  [("null", .null), ("true", .bool true), ("false", .bool false), ("NaN", .float .nan),
    ("Infinity", .float (.infinity false)), ("-Infinity", .float (.infinity true))]

/-- The fixed word at the front of a text. -/
def readWord? (cs : List Char) : Option (Value × List Char) :=
  (words.find? fun w => w.1.toList.isPrefixOf cs).map fun w => (w.2, cs.drop w.1.length)

/-- How deep arrays and objects may lie inside each other. -/
def maxDepth : Nat := 980

mutual

/-- The value at the front of a text; `depth` more arrays and objects may be opened. -/
def readValue (depth : Nat) : (fuel : Nat) → List Char → Step Value
  | 0, _ => .error .malformed
  | fuel + 1, cs =>
    match cs with
    | '"' :: r => (readString (r.length + 1) [] r).map fun (s, t) => (.text s, t)
    | '\x5b' :: r =>
      if depth = 0 then .error (.tooDeep false)
      else
        match skipGap r with
        | '\x5d' :: t => .ok (.list [], t)
        | t => readItems (depth - 1) fuel [] t
    | '\x7b' :: r =>
      if depth = 0 then .error (.tooDeep true)
      else
        match skipGap r with
        | '\x7d' :: t => .ok (.map [], t)
        | t => readMembers (depth - 1) fuel [] t
    | _ =>
      match readWord? cs with
      | some w => .ok w
      | none => readNumber cs

/-- The items of an array up to its closing bracket. -/
def readItems (depth : Nat) :
    (fuel : Nat) → (acc : List Value) → List Char → Step Value
  | 0, _, _ => .error .malformed
  | fuel + 1, acc, cs =>
    match readValue depth fuel cs with
    | .error e => .error e
    | .ok (v, r) =>
      match skipGap r with
      | ',' :: t => readItems depth fuel (v :: acc) (skipGap t)
      | '\x5d' :: t => .ok (.list (v :: acc).reverse, t)
      | _ => .error .malformed

/-- The members of an object up to its closing brace. -/
def readMembers (depth : Nat) :
    (fuel : Nat) → (acc : Entries) → List Char → Step Value
  | 0, _, _ => .error .malformed
  | fuel + 1, acc, cs =>
    match cs with
    | '"' :: r =>
      match readString (r.length + 1) [] r with
      | .error e => .error e
      | .ok (name, s) =>
        match skipGap s with
        | ':' :: t =>
          match readValue depth fuel (skipGap t) with
          | .error e => .error e
          | .ok (v, u) =>
            match skipGap u with
            | ',' :: w => readMembers depth fuel (acc.insert (.text name) v) (skipGap w)
            | '\x7d' :: w => .ok (.map (acc.insert (.text name) v), w)
            | _ => .error .malformed
        | _ => .error .malformed
    | _ => .error .malformed

end

/-- The one value that a text holds. -/
def read (s : String) : Except ReadError Value :=
  let cs := s.toList
  match readValue maxDepth (2 * cs.length + 2) (skipGap cs) with
  | .error e => .error e
  | .ok (v, r) => if (skipGap r).isEmpty then .ok v else .error .malformed

/-- A double in JSON; infinity and NaN have words of their own. -/
def floatText : Binary64 → String
  | .nan => "NaN"
  | .infinity s => if s then "-Infinity" else "Infinity"
  | x => x.text

/-- A key as the name of a member. -/
def keyText : Value → String
  | .text s => s
  | .null => "null"
  | .bool b => if b then "true" else "false"
  | .float x => floatText x
  | v => v.literal

mutual

/-- A value on one line, in ASCII. What JSON has no form for is written as its literal. -/
def render : Value → String
  | .null => "null"
  | .bool b => if b then "true" else "false"
  | .int n => toString n
  | .float x => floatText x
  | .text s => Text.escapedAscii s
  | .list xs => "[" ++ ", ".intercalate (renderAll xs) ++ "]"
  | .tuple xs => "[" ++ ", ".intercalate (renderAll xs) ++ "]"
  | .map es => "\x7b" ++ ", ".intercalate (renderMembers es) ++ "\x7d"
  | v => Text.escapedAscii v.literal

/-- Each value of a row on one line. -/
def renderAll : List Value → List String
  | [] => []
  | x :: xs => render x :: renderAll xs

/-- Each entry as a name, a colon and a value. -/
def renderMembers : List (Value × Value) → List String
  | [] => []
  | (k, v) :: es => (Text.escapedAscii (keyText k) ++ ": " ++ render v) :: renderMembers es

end

end ReleaseRefs.Json
