import ReleaseRefs.Value

/-!
# `ReleaseRefs.Log.Event`: what a run tells about itself

- `Event` is one thing that happened, with its level, its fields and the arguments of its wording.
- `Level.number` orders the levels; `Level.ofWord?_word`: words and levels belong together.
-/

set_option autoImplicit false

namespace ReleaseRefs.Log

/-- How much an event matters. -/
inductive Level where
  | debug
  | info
  | warning
  | error
  | critical
  deriving DecidableEq, Repr

namespace Level

/-- The rank of a level. -/
def number : Level → Nat
  | .debug => 10
  | .info => 20
  | .warning => 30
  | .error => 40
  | .critical => 50

def word : Level → String
  | .debug => "debug"
  | .info => "info"
  | .warning => "warning"
  | .error => "error"
  | .critical => "critical"

def ofWord? : String → Option Level
  | "debug" => some .debug
  | "info" => some .info
  | "warning" => some .warning
  | "error" => some .error
  | "critical" => some .critical
  | _ => none

/-- Every level is read from its word. -/
theorem ofWord?_word (l : Level) : ofWord? l.word = some l := by
  cases l <;> rfl

end Level

/-- Something that happened. -/
structure Event where
  /-- The wording, in which `%` marks may wait for arguments. -/
  name : String
  level : Level
  /-- The part of the tool that speaks. -/
  source : String
  args : List Value
  fields : List (String × Value)

/-- An event with fields and without arguments. -/
def Event.make (source : String) (level : Level) (name : String)
    (fields : List (String × Value)) : Event :=
  ⟨name, level, source, [], fields⟩

end ReleaseRefs.Log
