import ReleaseRefs.Calendar
import ReleaseRefs.Yaml.Cursor

/-!
# `ReleaseRefs.Yaml.Timestamp`: dates and times in a document

A date is `year-month-day`; behind `T` or blanks a time of day may follow, with a fraction of a
second and a zone. Where a time follows, month and day may have one digit.

- `Timestamp.read?` reads the parts, `Timestamp.value` checks them against the calendar.
-/

set_option autoImplicit false

namespace ReleaseRefs.Yaml

/-- The zone of a time: universal, or a number of minutes ahead or behind. -/
inductive Zone where
  | universal
  | offset (behind : Bool) (hours minutes : Nat)
  deriving DecidableEq, Repr

/-- A time of day. -/
structure ClockTime where
  hour : Nat
  minute : Nat
  second : Nat
  /-- The digits behind the point. -/
  fraction : List Nat
  zone : Option Zone
  deriving DecidableEq, Repr

/-- The parts of a date with an optional time. -/
structure Timestamp where
  date : Date
  /-- Month and day have two digits each. -/
  twoDigits : Bool
  time : Option ClockTime
  deriving DecidableEq, Repr

namespace Timestamp

/-- Reads exactly `n` digits. -/
def takeExactly? (n : Nat) (cs : List Char) : Option (List Nat × List Char) :=
  let ds := (cs.take n).filterMap Text.asciiDigitValue?
  if ds.length = n then some (ds, cs.drop n) else none

/-- Reads two digits, or one. -/
def takeOneOrTwo? (cs : List Char) : Option (List Nat × List Char) :=
  takeExactly? 2 cs <|> takeExactly? 1 cs

/-- Reads one character. -/
def expect? (x : Char) : List Char → Option (List Char)
  | [] => none
  | c :: r => if c = x then some r else none

/-- Reads what separates date and time. -/
def takeSeparator? : List Char → Option (List Char)
  | [] => none
  | c :: r =>
    if c = 'T' ∨ c = 't' then some r
    else if c = ' ' ∨ c = '\t' then some (r.dropWhile fun x => x == ' ' || x == '\t')
    else none

/-- Reads a zone that ends the text. -/
def readZone? : List Char → Option (Option Zone)
  | [] => some none
  | cs =>
    match cs.dropWhile fun x => x == ' ' || x == '\t' with
    | ['Z'] => some (some .universal)
    | c :: r =>
      if c = '+' ∨ c = '-' then
        match takeOneOrTwo? r with
        | none => none
        | some (hours, t) =>
          let zone (minutes : List Nat) : Option (Option Zone) :=
            some (some (.offset (c = '-') (Text.ofDigits 10 hours) (Text.ofDigits 10 minutes)))
          if t.isEmpty then zone []
          else
            match (expect? ':' t).bind (takeExactly? 2) with
            | some (minutes, []) => zone minutes
            | _ => none
      else none
    | [] => none

/-- Reads a time of day that ends the text. -/
def readTime? (cs : List Char) : Option ClockTime := do
  let (hour, r) ← takeOneOrTwo? cs
  let (minute, r) ← (expect? ':' r).bind (takeExactly? 2)
  let (second, r) ← (expect? ':' r).bind (takeExactly? 2)
  let fraction : List Nat × List Char := match r with
    | '.' :: t => Decimal.takeDigits t
    | t => ([], t)
  let zone ← readZone? fraction.2
  some ⟨Text.ofDigits 10 hour, Text.ofDigits 10 minute, Text.ofDigits 10 second, fraction.1,
    zone⟩

/-- Reads the parts of a date with an optional time. -/
def read? (cs : List Char) : Option Timestamp := do
  let (year, r) ← takeExactly? 4 cs
  let (month, r) ← (expect? '-' r).bind takeOneOrTwo?
  let (day, r) ← (expect? '-' r).bind takeOneOrTwo?
  let date : Date := ⟨Text.ofDigits 10 year, Text.ofDigits 10 month, Text.ofDigits 10 day⟩
  let twoDigits := month.length == 2 && day.length == 2
  if r.isEmpty then some ⟨date, twoDigits, none⟩
  else
    let time ← (takeSeparator? r).bind readTime?
    some ⟨date, twoDigits, some time⟩

/-- The text counts as a date or time without being marked as one: a date alone needs two digits
for month and day. -/
def isPlain (cs : List Char) : Bool :=
  match read? cs with
  | some t => t.time.isSome || t.twoDigits
  | none => false

/-- A fraction of a second in whole microseconds; further digits are dropped. -/
def microseconds (digits : List Nat) : Nat :=
  let six := digits.take 6
  Text.ofDigits 10 (six ++ List.replicate (6 - six.length) 0)

/-- The distance of a zone from universal time in seconds. -/
def zoneSeconds : Zone → Int
  | .universal => 0
  | .offset behind hours minutes =>
    let n : Int := (hours * 3600 + minutes * 60 : Nat)
    if behind then -n else n

/-- The date or moment, or the first rule that the parts break. -/
def value (t : Timestamp) : Except String (Date ⊕ Moment) :=
  match t.time with
  | none =>
    match t.date.check with
    | some e => .error e
    | none => .ok (.inl t.date)
  | some c =>
    let m : Moment := ⟨t.date, c.hour, c.minute, c.second, microseconds c.fraction,
      c.zone.map zoneSeconds⟩
    match m.check with
    | some e => .error e
    | none => .ok (.inr m)

end Timestamp

end ReleaseRefs.Yaml
