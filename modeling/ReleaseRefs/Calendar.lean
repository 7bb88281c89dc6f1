import ReleaseRefs.Decimal.Notation

/-!
# `ReleaseRefs.Calendar`: dates and moments

- `Date.check` and `Moment.check` give the first rule that the parts of a date or a time break.
- `Date.shown`, `Moment.shown` write the parts; `Date.iso`, `Moment.iso` write them as people do.
- `Moment.same` says when two moments are one instant.
- `Moment.ofSeconds` finds a moment by the seconds since the start of 1970, `Moment.stamp` writes it
  in one word.
-/

set_option autoImplicit false

namespace ReleaseRefs

/-- A day of the proleptic Gregorian calendar. -/
structure Date where
  year : Nat
  month : Nat
  day : Nat
  deriving DecidableEq, Repr

/-- A time of a day, with its distance from universal time in seconds where one is known. -/
structure Moment where
  date : Date
  hour : Nat
  minute : Nat
  second : Nat
  microsecond : Nat
  offset : Option Int
  deriving DecidableEq, Repr

namespace Calendar

/-- Every fourth year is a leap year, of the full centuries only every fourth. -/
def isLeap (year : Nat) : Bool := year % 4 == 0 && (year % 100 != 0 || year % 400 == 0)

/-- The number of days of a month. -/
def daysIn (year month : Nat) : Nat :=
  if month = 2 then if isLeap year then 29 else 28
  else if month = 4 ∨ month = 6 ∨ month = 9 ∨ month = 11 then 30
  else 31

/-- A number with at least `width` digits. -/
def padded (width n : Nat) : String :=
  let ds := Nat.toDigits 10 n
  String.ofList (List.replicate (width - ds.length) '0' ++ ds)

/-- Values written in parentheses behind a name. -/
def callText (name : String) (args : List String) : String :=
  name ++ "(" ++ ", ".intercalate args ++ ")"

/-- A length of time in seconds, as days and a rest of less than a day. -/
def spanText (seconds : Int) : String :=
  let days := Int.fdiv seconds 86400
  let rest := Int.fmod seconds 86400
  let parts := (if days = 0 then [] else ["days=" ++ toString days]) ++
    (if rest = 0 then [] else ["seconds=" ++ toString rest])
  callText "datetime.timedelta" (if parts.isEmpty then ["0"] else parts)

/-- The distance from universal time. -/
def zoneText (seconds : Int) : String :=
  if seconds = 0 then "datetime.timezone.utc"
  else callText "datetime.timezone" [spanText seconds]

end Calendar

namespace Date

/-- The first rule of the calendar that the parts break. -/
def check (d : Date) : Option String :=
  if d.year = 0 ∨ 9999 < d.year then some ("year " ++ toString d.year ++ " is out of range")
  else if d.month = 0 ∨ 12 < d.month then some "month must be in 1..12"
  else if d.day = 0 ∨ Calendar.daysIn d.year d.month < d.day then
    some "day is out of range for month"
  else none

/-- The parts of the date under its name. -/
def shown (d : Date) : String :=
  Calendar.callText "datetime.date" [toString d.year, toString d.month, toString d.day]

/-- Year, month and day with dashes. -/
def iso (d : Date) : String :=
  Calendar.padded 4 d.year ++ "-" ++ Calendar.padded 2 d.month ++ "-" ++ Calendar.padded 2 d.day

/-- The number of days from the start of the year one up to the date. -/
def ordinal (d : Date) : Nat :=
  let years := d.year - 1
  let months := (List.range' 1 (d.month - 1)).map (Calendar.daysIn d.year)
  365 * years + years / 4 - years / 100 + years / 400 + months.foldl (· + ·) 0 + d.day

/-- The date that lies a number of days after the first of January 1970. Years are counted from
March on, so that a leap day is the last of its year, and in turns of four hundred years, which
have equally many days. -/
def ofDays (days : Nat) : Date :=
  let fromMarch := days + 719468
  let turn := fromMarch / 146097
  let dayOfTurn := fromMarch % 146097
  let yearOfTurn := (dayOfTurn - dayOfTurn / 1460 + dayOfTurn / 36524 - dayOfTurn / 146096) / 365
  let dayOfYear := dayOfTurn - (365 * yearOfTurn + yearOfTurn / 4 - yearOfTurn / 100)
  let monthFromMarch := (5 * dayOfYear + 2) / 153
  let month := if monthFromMarch < 10 then monthFromMarch + 3 else monthFromMarch - 9
  ⟨yearOfTurn + 400 * turn + (if month ≤ 2 then 1 else 0), month,
    dayOfYear - (153 * monthFromMarch + 2) / 5 + 1⟩

example : ofDays 0 = ⟨1970, 1, 1⟩ ∧ ofDays 59 = ⟨1970, 3, 1⟩ ∧
    ofDays 11016 = ⟨2000, 2, 29⟩ := by
  decide

example : ordinal ⟨1, 1, 1⟩ = 1 ∧ ordinal ⟨1970, 1, 1⟩ = 719163 ∧
    ordinal ⟨2000, 3, 1⟩ = ordinal ⟨2000, 2, 29⟩ + 1 := by
  decide

end Date

namespace Moment

/-- The first rule that the parts break; a zone lies within a day of universal time. -/
def check (m : Moment) : Option String :=
  match m.offset with
  | some s =>
    if s.natAbs < 86400 then parts
    else some ("offset must be a timedelta strictly between -timedelta(hours=24) and " ++
      "timedelta(hours=24), not " ++ Calendar.spanText s ++ ".")
  | none => parts
where
  /-- The rules for date and time of day. -/
  parts : Option String :=
    match m.date.check with
    | some e => some e
    | none =>
      if 23 < m.hour then some "hour must be in 0..23"
      else if 59 < m.minute then some "minute must be in 0..59"
      else if 59 < m.second then some "second must be in 0..59"
      else if 999999 < m.microsecond then some "microsecond must be in 0..999999"
      else none

/-- The seconds from the start of the year one up to the moment, on the clocks of a place that lies
an offset ahead of universal time. -/
def universalSeconds (m : Moment) (offset : Int) : Int :=
  (m.date.ordinal * 86400 + m.hour * 3600 + m.minute * 60 + m.second : Nat) - offset

/-- Two moments are one instant. One whose distance from universal time is not known is never the
same as one where it is. -/
def same (m n : Moment) : Bool :=
  match m.offset, n.offset with
  | none, none => m == n
  | some s, some t =>
    m.universalSeconds s == n.universalSeconds t && m.microsecond == n.microsecond
  | _, _ => false

/-- The parts of the moment under its name; zero seconds and microseconds are left out. -/
def shown (m : Moment) : String :=
  let d := m.date
  let tail := if m.microsecond ≠ 0 then [toString m.second, toString m.microsecond]
    else if m.second ≠ 0 then [toString m.second] else []
  let zone := match m.offset with
    | some s => ["tzinfo=" ++ Calendar.zoneText s]
    | none => []
  Calendar.callText "datetime.datetime"
    ([toString d.year, toString d.month, toString d.day, toString m.hour, toString m.minute] ++
      tail ++ zone)

/-- The distance from universal time with sign, hours and minutes, and seconds if there are any. -/
def offsetText (s : Int) : String :=
  let n := s.natAbs
  (if s < 0 then "-" else "+") ++ Calendar.padded 2 (n / 3600) ++ ":" ++
    Calendar.padded 2 (n / 60 % 60) ++
    if n % 60 = 0 then "" else ":" ++ Calendar.padded 2 (n % 60)

/-- Date, time and zone as people write them. -/
def iso (m : Moment) : String :=
  m.date.iso ++ " " ++ Calendar.padded 2 m.hour ++ ":" ++ Calendar.padded 2 m.minute ++ ":" ++
    Calendar.padded 2 m.second ++
    (if m.microsecond = 0 then "" else "." ++ Calendar.padded 6 m.microsecond) ++
    match m.offset with
    | some s => offsetText s
    | none => ""

/-- The moment in universal time that lies a number of seconds after the start of 1970. -/
def ofSeconds (seconds microsecond : Nat) : Moment :=
  let rest := seconds % 86400
  ⟨.ofDays (seconds / 86400), rest / 3600, rest / 60 % 60, rest % 60, microsecond, some 0⟩

/-- A moment of universal time in one word. -/
def stamp (m : Moment) : String :=
  m.date.iso ++ "T" ++ Calendar.padded 2 m.hour ++ ":" ++ Calendar.padded 2 m.minute ++ ":" ++
    Calendar.padded 2 m.second ++ "." ++ Calendar.padded 6 m.microsecond ++ "Z"

end Moment

end ReleaseRefs
