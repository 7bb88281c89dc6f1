import ReleaseRefs.Log.Journal

/-!
# `ReleaseRefs.Log.Call`: how events are handed over

Code that logs says a word for what it does, a wording with arguments, and fields by name. Some
names are taken by what it says without a name.

- `Call.event` is the event that a call stands for, or the failure of the call.
- `event_of_level`: a call with the word for a level and with fields whose names are free stands for
  an event of that level.
-/

set_option autoImplicit false

namespace ReleaseRefs.Log

/-- What code hands over to have it logged. -/
structure Call where
  /-- What is to be done, mostly the word for a level. -/
  word : String
  source : String
  wording : String
  args : List Value
  /-- Fields that were bound before. -/
  bound : Fields
  fields : Fields

namespace Call

/-- The levels by the words with which code logs. -/
def levels : List (String × Level) :=
  [("debug", .debug), ("info", .info), ("warning", .warning), ("warn", .warning),
    ("error", .error), ("exception", .error), ("critical", .critical), ("fatal", .critical)]

/-- The failure of an operation that gets an argument by its name and by its place. -/
def clash (operation name : String) : Failure :=
  .fault .type (operation ++ "() got multiple values for argument " ++ Text.quoted name)

/-- Fails at the first field whose name an operation has taken. -/
def keepFree (operation : String) (taken : List String) (fields : Fields) : Except Failure Unit :=
  match fields.find? fun f => taken.contains f.1 with
  | some f => .error (clash operation f.1)
  | none => .ok ()

/-- The name of the operation behind a word. -/
def operation (word : String) : String :=
  "BoundLogger." ++ if word = "warn" then "warning" else word

/-- The name of the operation that all words for levels lead to. -/
def innerOperation : String := "BoundLogger._proxy_to_logger"

/-- The word that asks for the level first, for which it takes the wording. -/
def levelFirst : String := "log"

def event (c : Call) : Except Failure Event := do
  keepFree "BoundLoggerLazyProxy.bind" ["self"] c.bound
  if c.word = levelFirst then
    keepFree (operation c.word) (["self", "level"] ++ if c.args.isEmpty then [] else ["event"])
      c.fields
    .error (.fault .key c.wording)
  else
    match levels.lookup c.word with
    | none =>
      .error (.fault .attribute ("'BoundLogger' object has no attribute " ++ Text.quoted c.word))
    | some level =>
      keepFree (operation c.word) ["self", "event"] c.fields
      keepFree innerOperation ["method_name"] c.fields
      return ⟨c.wording, level, c.source, c.args, mergeFields c.bound c.fields⟩

/-- Fields with free names are no hindrance. -/
theorem keepFree_eq_ok {operation : String} {taken : List String} {fields : Fields}
    (free : ∀ f ∈ fields, f.1 ∉ taken) : keepFree operation taken fields = .ok () := by
  have none : (fields.find? fun f => taken.contains f.1) = none := by
    rw [List.find?_eq_none]
    intro f hf
    simpa using free f hf
  rw [keepFree, none]

/-- A call with the word for a level stands for an event of that level. -/
theorem event_of_level (c : Call) (level : Level) (word : c.word = level.word)
    (bound : ∀ f ∈ c.bound, f.1 ≠ "self")
    (free : ∀ f ∈ c.fields, f.1 ∉ ["self", "event", "method_name"]) :
    c.event = .ok ⟨c.wording, level, c.source, c.args, mergeFields c.bound c.fields⟩ := by
  have first : keepFree "BoundLoggerLazyProxy.bind" ["self"] c.bound = .ok () :=
    keepFree_eq_ok fun f hf => by simpa using bound f hf
  have second : keepFree (operation c.word) ["self", "event"] c.fields = .ok () :=
    keepFree_eq_ok fun f hf => by
      have h := free f hf
      simp only [List.mem_cons, List.not_mem_nil, or_false, not_or] at h ⊢
      exact ⟨h.1, h.2.1⟩
  have third : keepFree innerOperation ["method_name"] c.fields = .ok () :=
    keepFree_eq_ok fun f hf => by
      have h := free f hf
      simp only [List.mem_cons, List.not_mem_nil, or_false, not_or] at h ⊢
      exact h.2.2
  have other : c.word ≠ levelFirst := by
    rw [word]
    cases level <;> decide
  have known : levels.lookup c.word = some level := by
    rw [word]
    cases level <;> decide
  unfold event
  rw [first, if_neg other, known]
  simp only [second, third, bind, Except.bind, pure, Except.pure]

end Call

end ReleaseRefs.Log
