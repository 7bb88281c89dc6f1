import ReleaseRefs.Config.Environment
import ReleaseRefs.Log.Record
import ReleaseRefs.Log.Wording

/-!
# `ReleaseRefs.Log.Journal`: where events go

Until it is set up, a journal writes every event to standard output. Once set up it writes to
standard error those events that matter enough.

- `Journal` holds the setup and the fields that are bound to all events.
- `Journal.setUp` changes the setup, `Journal.bind` and `Journal.unbind` the bound fields.
- `Journal.write` gives the line of an event, if it is to be written.
- `write_stream_of_setup`: a journal that is set up writes to standard error only.
-/

set_option autoImplicit false

namespace ReleaseRefs.Log

/-- The variable with the least level. -/
def levelName : String := "REF_PUBLISHER_LOG_LEVEL"

/-- The variable with the form of lines. -/
def formatName : String := "REF_PUBLISHER_LOG_FORMAT"

/-- What the name of a level stands for. -/
inductive Threshold where
  | rank (n : Int)
  /-- The form of a plain line, which has a name of the same kind and is no level. -/
  | lineForm
  /-- All forms of a plain line, which together have such a name too. -/
  | lineForms
  deriving DecidableEq, Repr

/-- The form of a plain line. -/
def lineForm : String := "%(levelname)s:%(name)s:%(message)s"

/-- A form of a plain line: the sign of its marks, the class that fills them, and the form. -/
structure LineStyle where
  sign : String
  filler : String
  form : String

/-- All forms of a plain line. -/
def lineStyles : List LineStyle := [
  ⟨"%", "<class 'logging.PercentStyle'>", lineForm⟩,
  ⟨"\x7b", "<class 'logging.StrFormatStyle'>",
    "\x7blevelname\x7d:\x7bname\x7d:\x7bmessage\x7d"⟩,
  ⟨"$", "<class 'logging.StringTemplateStyle'>",
    "$\x7blevelname\x7d:$\x7bname\x7d:$\x7bmessage\x7d"⟩]

/-- All forms of a plain line as a message shows them. -/
def lineStylesText : String :=
  "\x7b" ++ ", ".intercalate (lineStyles.map fun s =>
    Text.quoted s.sign ++ ": (" ++ s.filler ++ ", " ++ Text.quoted s.form ++ ")") ++ "\x7d"

/-- The names of levels, and the other names of their kind. -/
def thresholds : List (String × Threshold) :=
  [("CRITICAL", .rank 50), ("FATAL", .rank 50), ("ERROR", .rank 40), ("WARNING", .rank 30),
    ("WARN", .rank 30), ("INFO", .rank 20), ("DEBUG", .rank 10), ("NOTSET", .rank 0),
    ("BASIC_FORMAT", .lineForm), ("_STYLES", .lineForms)]

/-- The threshold that the variables ask for; without a known name it is that of `info`. -/
def thresholdOf (env : Environment) : Threshold :=
  match env.get? levelName with
  | none => .rank Level.info.number
  | some name => (thresholds.lookup (Text.upper name)).getD (.rank Level.info.number)

/-- The variables ask for JSON. -/
def wantsJson (env : Environment) : Bool := Text.lower ((env.get? formatName).getD "") == "json"

/-- How a journal writes. -/
structure Setup where
  /-- The least rank of an event that is written. -/
  threshold : Int
  json : Bool
  deriving DecidableEq, Repr

namespace Setup

/-- The least rank for what the git library tells, which is never below `info`. -/
def gitThreshold (s : Setup) : Int := max s.threshold Level.info.number

/-- The source belongs to the git library. -/
def isGit (source : String) : Bool := source == "git" || "git.".toList.isPrefixOf source.toList

/-- An event of a level and a source is written. -/
def admits (s : Setup) (level : Level) (source : String) : Bool :=
  let least := if isGit source then s.gitThreshold else s.threshold
  decide (least ≤ level.number) && decide (s.threshold ≤ level.number)

end Setup

/-- The two outputs of a program. -/
inductive Stream where
  | out
  | err
  deriving DecidableEq, Repr

/-- The forms of a line. -/
inductive Style where
  | console
  | json
  deriving DecidableEq, Repr

structure Line where
  stream : Stream
  style : Style
  record : Record

/-- What stands on standard error instead of a line that cannot be written. -/
def brokenNotice : String := "--- Logging error ---"

def Line.text (time : String) (l : Line) : String :=
  match l.style with
  | .console => if l.record.fitsColumns then l.record.console time else brokenNotice
  | .json => if l.record.fitsJson then l.record.json time else brokenNotice

/-- Where events go, and what is bound to all of them. -/
structure Journal where
  setup : Option Setup
  context : Fields

namespace Journal

/-- The journal before anything is set up or bound. -/
def fresh : Journal := ⟨none, []⟩

/-- Sets up how events are written, from a rank on. -/
def setAt (j : Journal) (env : Environment) (forceJson : Bool) (threshold : Int) : Journal :=
  { j with setup := some ⟨threshold, forceJson || wantsJson env⟩ }

/-- Sets up how events are written; without a rank the variables give it. A name that is no level
changes nothing. -/
def setUp (j : Journal) (env : Environment) (forceJson : Bool) (threshold : Option Int) :
    Except Failure Journal :=
  match threshold, thresholdOf env with
  | some n, _ => .ok (j.setAt env forceJson n)
  | none, .rank n => .ok (j.setAt env forceJson n)
  | none, .lineForm => .error (.fault .value ("Unknown level: " ++ Text.quoted lineForm))
  | none, .lineForms =>
    .error (.fault .type ("Level not an integer or a valid string: " ++ lineStylesText))

/-- Binds fields to all events to come. -/
def bind (j : Journal) (fields : Fields) : Journal :=
  { j with context := mergeFields j.context fields }

/-- Leaves no field bound. -/
def unbind (j : Journal) : Journal := { j with context := [] }

/-- The name by which a source is shown. -/
def sourceName (source : String) : String := if source.isEmpty then "root" else source

/-- The field with the arguments of a wording that come without being asked for. -/
def argumentsName : String := "positional_args"

/-- The arguments of a wording: those that an event has, or else those in a field. -/
def supplyOf (args : List Value) (fields : Fields) : Except Failure (Option Supply) :=
  match args, fields.lookup argumentsName with
  | [], none => .ok none
  | [], some v => Supply.ofValue v
  | args, _ => .ok (some (.ofArgs args))

/-- The fields that are left when the wording is filled; null is no arguments and stays. -/
def withoutArguments (args : List Value) (fields : Fields) : Fields :=
  fields.filter fun f =>
    f.1 != argumentsName || (args.isEmpty && match f.2 with
      | .null => true
      | _ => false)

/-- Refuses a field that stands in the place of a record, which would have to name a source. -/
def checkSource (fields : Fields) : Except Failure Unit :=
  match fields.lookup Record.recordName with
  | none => .ok ()
  | some .null => .ok ()
  | some v => .error (.fault .attribute ("'" ++ v.kindName ++ "' object has no attribute 'name'"))

/-- The line for a filled wording and all fields. -/
def lineFor (j : Journal) (level : Level) (source text : String) (fields : Fields) : Option Line :=
  match j.setup with
  | none => some ⟨.out, .console, ⟨level, none, text, fields⟩⟩
  | some s =>
    if s.admits level source then
      some ⟨.err, if s.json then .json else .console,
        ⟨level, some (sourceName source), text, fields⟩⟩
    else none

/-- The wording of an event, filled. -/
def wordingOf (j : Journal) (e : Event) : Except Failure String := do
  let fields := mergeFields j.context e.fields
  checkSource fields
  fillWith e.name (← supplyOf e.args fields)

/-- The line of an event, if it is written. Its wording is filled in either case. -/
def write (j : Journal) (e : Event) : Except Failure (Option Line) :=
  (j.wordingOf e).map fun text =>
    j.lineFor e.level e.source text (withoutArguments e.args (mergeFields j.context e.fields))

/-- The line of a message from outside the tool, whose wording is filled only if it is written:
first from its own arguments, then from those in a field that is bound. -/
def relay (j : Journal) (e : Event) : Except Failure (Option Line) :=
  let fields := mergeFields j.context e.fields
  match j.lineFor e.level e.source "" (withoutArguments [] fields) with
  | none => .ok none
  | some line => do
    let own ← fill e.name e.args
    let text ← fillWith own (← supplyOf [] fields)
    return some { line with record := { line.record with text } }

/-- A line that a journal with a setup writes goes to standard error. -/
theorem lineFor_stream {j : Journal} {s : Setup} {level : Level} {source text : String}
    {fields : Fields} {l : Line} (set : j.setup = some s)
    (h : j.lineFor level source text fields = some l) : l.stream = .err := by
  unfold lineFor at h
  rw [set] at h
  split at h
  · contradiction
  · split at h
    · cases h
      rfl
    · contradiction

/-- Once a journal is set up, standard output stays free of its lines. -/
theorem write_stream_of_setup (j : Journal) (s : Setup) (e : Event) (l : Line)
    (set : j.setup = some s) (h : j.write e = .ok (some l)) : l.stream = .err := by
  unfold write at h
  cases filled : j.wordingOf e with
  | error f => simp [filled, Except.map] at h
  | ok text =>
    simp only [filled, Except.map, Except.ok.injEq] at h
    exact lineFor_stream set h

end Journal

end ReleaseRefs.Log
