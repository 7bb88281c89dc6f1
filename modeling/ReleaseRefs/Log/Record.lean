import ReleaseRefs.Json
import ReleaseRefs.Log.Event

/-!
# `ReleaseRefs.Log.Record`: one line of a log

- `Record` is an event whose wording is filled and whose fields are complete.
- `Record.console` writes it in columns, `Record.json` as one JSON object.
- `mergeFields` puts fields over others of the same names; `mergeFields_lookup_upper` says that the
  upper ones win.
-/

set_option autoImplicit false

namespace ReleaseRefs.Log

/-- Named values. -/
abbrev Fields := List (String × Value)

/-- Fields under others: of two with one name the upper one stays. -/
def mergeFields (lower upper : Fields) : Fields :=
  lower.filter (fun f => !upper.any fun g => g.1 == f.1) ++ upper

/-- A field of the upper row is found whatever the lower row holds. -/
theorem mergeFields_lookup_upper (lower upper : Fields) (name : String) (v : Value)
    (h : upper.lookup name = some v) : (mergeFields lower upper).lookup name = some v := by
  have absent : (lower.filter fun f => !upper.any fun g => g.1 == f.1).lookup name = none := by
    rw [List.lookup_eq_none_iff]
    intro f hf
    obtain ⟨_, hidden⟩ := List.mem_filter.1 hf
    obtain ⟨l, r, split, _⟩ := List.lookup_eq_some_iff.1 h
    have present : (name, v) ∈ upper := by simp [split]
    simp only [Bool.not_eq_true', List.any_eq_false, beq_iff_eq] at hidden
    have differ := hidden (name, v) present
    simpa using differ
  rw [mergeFields, List.lookup_append, absent, h, Option.none_or]

/-- The fields in the order of their names. -/
def sortFields (fs : Fields) : Fields := fs.mergeSort fun f g => Text.atMost f.1 g.1

/-- An event as it is written. -/
structure Record where
  level : Level
  /-- The part of the tool that speaks, where it is named. -/
  source : Option String
  text : String
  fields : Fields

namespace Record

/-- The name under which a message from outside the tool keeps its own record. -/
def recordName : String := "_record"

/-- The name under which a message keeps whether it comes from the tool. -/
def originName : String := "_from_structlog"

/-- Names that a record fills itself, names that ask for a trace of a failure that is not there, and
names of what is never written. -/
def ownNames : List String :=
  ["event", "level", "logger", "timestamp", "exc_info", "stack_info", recordName, originName]

/-- The fields that are written beside the record's own. -/
def shownFields (r : Record) : Fields := r.fields.filter fun f => !ownNames.contains f.1

/-- The names of the fields that hold traces: where the event happened, and what went wrong. -/
def stackName : String := "stack"
def exceptionName : String := "exception"

/-- The name of a field that is written like the source, behind it. -/
def secondSourceName : String := "logger_name"

/-- Names whose fields have a place of their own in the columns. -/
def placedNames : List String := [stackName, exceptionName, secondSourceName]

/-- The text of a field's value would not stay one word. -/
def needsQuotes (s : String) : Bool :=
  s.toList.any fun c => [' ', '\t', '=', '\r', '\n', '"', '\''].contains c

/-- A field's value: a text of one word stands as it is, all else as a literal. -/
def valueText : Value → String
  | .text s => if needsQuotes s then Text.quoted s else s
  | v => v.literal

/-- A text with blanks behind it up to a width. -/
def padded (width : Nat) (s : String) : String := s.pushn ' ' (width - Text.size s)

/-- The width of the column for the level, and of that for the wording. -/
def levelWidth : Nat := 9
def textWidth : Nat := 30

/-- The line between two traces. -/
def ruler : String := "".pushn '=' 79

/-- The traces of a record, each on lines of its own. -/
def traces (r : Record) : String :=
  match r.fields.lookup stackName, r.fields.lookup exceptionName with
  | some (.text stack), some (.text failure) =>
    "\n" ++ stack ++ "\n\n" ++ ruler ++ "\n\n" ++ failure
  | some (.text trace), _ => "\n" ++ trace
  | _, some (.text trace) => "\n" ++ trace
  | _, _ => ""

/-- The record in columns: time, level, wording, source, and the fields in order. Traces follow on
lines of their own. -/
def console (time : String) (r : Record) : String :=
  let sources := r.source.toList ++ ((r.fields.lookup secondSourceName).map Value.display).toList
  let fields := (sortFields (r.shownFields.filter fun f => !placedNames.contains f.1)).map
    fun f => f.1 ++ "=" ++ valueText f.2
  let columns := [time, "[" ++ padded levelWidth r.level.word ++ "]", padded textWidth r.text] ++
    sources.map (fun s => "[" ++ s ++ "]") ++ fields
  let line := " ".intercalate (columns.filter fun c => !c.isEmpty)
  String.ofList (line.toList.reverse.dropWhile (· == ' ')).reverse ++ r.traces

/-- The value can stand where a trace is written. -/
def isTrace : Value → Bool
  | .null => true
  | .text _ => true
  | _ => false

/-- The record can be written in columns: its traces are texts, and no integer in it is too long. -/
def fitsColumns (r : Record) : Bool :=
  r.shownFields.all fun f =>
    f.2.isWritable && (isTrace f.2 || (f.1 != stackName && f.1 != exceptionName))

/-- The record can be written as JSON: no integer in it is too long. -/
def fitsJson (r : Record) : Bool := r.shownFields.all fun f => f.2.isWritable

/-- The record as a JSON object with its members in order. -/
def json (time : String) (r : Record) : String :=
  let own : Fields := [("event", .text r.text), ("level", .text r.level.word),
    ("timestamp", .text time)] ++
    match r.source with
    | some s => [("logger", .text s)]
    | none => []
  Json.render (.map ((sortFields (own ++ r.shownFields)).map fun f => (.text f.1, f.2)))

end Record

end ReleaseRefs.Log
