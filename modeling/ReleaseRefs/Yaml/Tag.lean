import ReleaseRefs.Yaml.Timestamp

/-!
# `ReleaseRefs.Yaml.Tag`: what a scalar without a tag is

A plain scalar is a truth value, a number, a date, nothing, or one of the two special keys if it
has the form of one, and a text otherwise.

- `Tag.ofPlain` decides it; `isIntegerForm` and `isFloatForm` are the forms of numbers.
-/

set_option autoImplicit false

namespace ReleaseRefs.Yaml

/-- The name of a kind of node. -/
abbrev Tag := String

namespace Tag

/-- What the tags of the language start with. -/
def coreStart : String := "tag:yaml.org,2002:"

/-- A tag of the language. -/
def core (name : String) : Tag := coreStart ++ name

def trueWords : List String :=
  ["yes", "Yes", "YES", "true", "True", "TRUE", "on", "On", "ON"]

def falseWords : List String :=
  ["no", "No", "NO", "false", "False", "FALSE", "off", "Off", "OFF"]

/-- The words for nothing. -/
def nullWords : List String := ["", "~", "null", "Null", "NULL"]

def isDigitOrUnderscore (c : Char) : Bool := c.isDigit || c == '_'

/-- One or more characters of a class and nothing else. -/
def allOf (p : Char → Bool) (cs : List Char) : Bool := !cs.isEmpty && cs.all p

/-- A digit of base sixty: one digit, or two of which the first is at most five. -/
def isSexagesimalDigit : List Char → Bool
  | [a] => a.isDigit
  | [a, b] => '0' ≤ a && a ≤ '5' && b.isDigit
  | _ => false

/-- The text behind a sign. -/
def dropSign : List Char → List Char
  | '-' :: r => r
  | '+' :: r => r
  | r => r

/-- A whole number: in base ten, two, eight, sixteen or sixty. -/
def isIntegerForm (cs : List Char) : Bool :=
  match dropSign cs with
  | [] => false
  | ['0'] => true
  | '0' :: 'b' :: r => allOf (fun c => c == '0' || c == '1' || c == '_') r
  | '0' :: 'x' :: r => allOf (fun c => (Text.hexValue? c).isSome || c == '_') r
  | '0' :: r => allOf (fun c => ('0' ≤ c && c ≤ '7') || c == '_') r
  | c :: r =>
    match Text.splitAt ':' (c :: r) with
    | first :: others =>
      c.isDigit && first.all isDigitOrUnderscore && others.all isSexagesimalDigit
    | [] => false

/-- Nothing, or the letter of an exponent, its sign and digits. -/
def isExponentForm : List Char → Bool
  | [] => true
  | e :: s :: r => (e == 'e' || e == 'E') && (s == '-' || s == '+') && allOf Char.isDigit r
  | _ => false

/-- Digits and underscores and then perhaps an exponent. -/
def isFractionForm (cs : List Char) : Bool :=
  isExponentForm (cs.dropWhile isDigitOrUnderscore)

/-- Digits and underscores of which the first is a digit. -/
def startsWithDigit (cs : List Char) : Bool :=
  cs.head?.any Char.isDigit && cs.all isDigitOrUnderscore

/-- A number with a point: in base ten or sixty, infinity, or no number at all. -/
def isFloatForm (cs : List Char) : Bool :=
  let body := dropSign cs
  if [".nan", ".NaN", ".NAN"].contains (String.ofList cs) then true
  else if [".inf", ".Inf", ".INF"].contains (String.ofList body) then true
  else
    match Text.splitOnce '.' body with
    | (_, none) => false
    | ([], some r) => body == cs && r.head?.any Char.isDigit && isFractionForm r
    | (whole, some r) =>
      match Text.splitAt ':' whole with
      | [digits] => startsWithDigit digits && isFractionForm r
      | first :: others =>
        startsWithDigit first && others.all isSexagesimalDigit && r.all isDigitOrUnderscore
      | [] => false

/-- The text without one line feed at its end. -/
def dropFinalFeed (cs : List Char) : List Char :=
  if cs.getLast? == some '\n' then cs.dropLast else cs

/-- The tag of a scalar by the form of its text. A line feed alone is a text. -/
def ofPlain (s : String) : Tag :=
  let cs := dropFinalFeed s.toList
  let t := String.ofList cs
  if s = "\n" then core "str"
  else if trueWords.contains t || falseWords.contains t then core "bool"
  else if isFloatForm cs then core "float"
  else if isIntegerForm cs then core "int"
  else if t = "<<" then core "merge"
  else if nullWords.contains t then core "null"
  else if Timestamp.isPlain cs then core "timestamp"
  else if t = "=" then core "value"
  else if t = "!" ∨ t = "&" ∨ t = "*" then core "yaml"
  else core "str"

end Tag

end ReleaseRefs.Yaml
