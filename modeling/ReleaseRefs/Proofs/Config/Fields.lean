import ReleaseRefs.Config.Settings
import ReleaseRefs.Proofs.Config.Entries

/-!
# `ReleaseRefs.Proofs.Config.Fields`: options one by one

The options of a run are read together. Here each of the six is looked at by itself: `taken` says
what an option makes of a value, and `Governs` that an option is what a value says, or what it
usually is if there is no value.

- `ofEntries_governs`: each option that was read is governed by what stands under its key.
- `configFor_governs`: each option of one run is governed by what was said for this run.
- `Governs.trans`: options that are governed one after the other are governed by the first value.
-/

set_option autoImplicit false

namespace ReleaseRefs.Proofs.Config

open ReleaseRefs.Config

/-- The value of an option. -/
def valueOf (c : Config) : Field → Value
  | .dryRun => .bool c.dryRun
  | .maxRetries => .int c.maxRetries
  | .repoPath => .path c.repoPath
  | .defaultBranch => .text c.defaultBranch
  | .remote => .text c.remote
  | .tagPrefix => .text c.tagPrefix

/-- What an option takes a value for, if it accepts it. -/
def taken : Field → Value → Except Complaint Value
  | .dryRun, v => (Coercion.truth v).map .bool
  | .maxRetries, v => (Coercion.count v).map .int
  | .repoPath, v => (Coercion.path v).map .path
  | .defaultBranch, v => (Coercion.name v).map .text
  | .remote, v => (Coercion.name v).map .text
  | .tagPrefix, v => (Coercion.text v).map .text

/-- An option is what a value is taken for, or the usual one if there is no value. -/
def Governs (field : Field) (usual c : Config) : Option Value → Prop
  | none => valueOf c field = valueOf usual field
  | some v => taken field v = .ok (valueOf c field)

/-- What governs an option over what governs it otherwise is the first value of both. -/
theorem Governs.trans {field : Field} {usual mid c : Config} {upper lower : Option Value}
    (first : Governs field mid c upper) (otherwise : Governs field usual mid lower) :
    Governs field usual c (upper <|> lower) := by
  cases upper with
  | some v => exact first
  | none =>
    cases lower with
    | none => exact Eq.trans first otherwise
    | some w =>
      show taken field w = .ok (valueOf c field)
      rw [show valueOf c field = valueOf mid field from first]
      exact otherwise

/-- Only what the option takes a value for decides. -/
theorem Governs.congr {field : Field} {usual c : Config} {o p : Option Value}
    (same : o.map (taken field) = p.map (taken field)) (governs : Governs field usual c o) :
    Governs field usual c p := by
  cases o <;> cases p
  · exact governs
  · cases same
  · cases same
  · exact (Option.some.inj same).symm.trans governs

/-- An option that was read is what stands under its key, or the usual one. -/
theorem readField_governs {α : Type} {es : Entries} {field : Field}
    {read : Value → Except Complaint α} {usual a : α} (h : readField es field read usual = .ok a) :
    match es.getText? field.key with
    | none => a = usual
    | some v => read v = .ok a := by
  unfold readField at h
  cases present : es.getText? field.key with
  | none =>
    rw [present] at h
    exact (Except.ok.inj h).symm
  | some v =>
    rw [present] at h
    show read v = .ok a
    cases result : read v with
    | ok b =>
      simp only [result] at h
      exact congrArg Except.ok (Except.ok.inj h)
    | error e =>
      simp only [result] at h
      cases h

/-- Each option that was read is governed by what stands under its key. -/
theorem ofEntries_governs {base c : Config} {es : Entries} (h : ofEntries base es = .ok c)
    (field : Field) : Governs field base c (es.getText? field.key) := by
  unfold ofEntries at h
  simp only at h
  split at h
  · next a b p d e f ha hb hp hd he hf =>
    obtain rfl := Except.ok.inj h
    -- The six options are alike: each was read by itself.
    have governs {α : Type} {field : Field} {read : Value → Except Complaint α} {usual x : α}
        {c : Config} {wrap : α → Value} (read_ok : readField es field read usual = .ok x)
        (result : valueOf c field = wrap x) (before : valueOf base field = wrap usual)
        (takes : ∀ v, taken field v = (read v).map wrap) :
        Governs field base c (es.getText? field.key) := by
      have read_ok := readField_governs read_ok
      cases found : es.getText? field.key with
      | none =>
        rw [found] at read_ok
        exact result.trans ((congrArg wrap read_ok).trans before.symm)
      | some v =>
        rw [found] at read_ok
        show taken field v = _
        rw [takes, result, read_ok]
        rfl
    cases field with
    | dryRun => exact governs ha rfl rfl fun _ => rfl
    | maxRetries => exact governs hb rfl rfl fun _ => rfl
    | repoPath => exact governs hp rfl rfl fun _ => rfl
    | defaultBranch => exact governs hd rfl rfl fun _ => rfl
    | remote => exact governs he rfl rfl fun _ => rfl
    | tagPrefix => exact governs hf rfl rfl fun _ => rfl
  · cases h

/-! ### What is said for one run -/

theorem getText?_dump (c : Config) (field : Field) :
    c.dump.getText? field.key = some (valueOf c field) := by
  cases field <;>
    simp [dump, Entries.getText?, Entries.get?, Value.sameKey, Field.key, valueOf]

/-- An option takes its own value for itself. -/
theorem taken_valueOf {c : Config} (sound : c.Sound) (field : Field) :
    taken field (valueOf c field) = .ok (valueOf c field) := by
  have notNegative : ¬ c.maxRetries < 0 := Int.not_lt.2 sound.retries
  cases field <;>
    simp [taken, valueOf, Coercion.truth, Coercion.count, Coercion.whole, Coercion.path,
      Coercion.name, Coercion.text, sound.branch, sound.remote, notNegative, Except.map]

/-- The value says something. -/
def isSaid : Value → Bool
  | .null => false
  | _ => true

/-- What was said last for this run about an option. Null says nothing. -/
def saidFor (said : List (String × Value)) (field : Field) : Option Value :=
  (said.filter fun o => o.1 == field.key && isSaid o.2).getLast?.map Prod.snd

theorem saidEntries_eq (said : List (String × Value)) :
    Settings.saidEntries said =
      (said.filter fun o => isSaid o.2).map fun o => (Value.text o.1, o.2) := by
  induction said with
  | nil => rfl
  | cons o rest ih =>
    obtain ⟨name, v⟩ := o
    have front : Settings.saidEntries ((name, v) :: rest) =
        (if isSaid v then [(Value.text name, v)] else []) ++ Settings.saidEntries rest := by
      cases v <;> rfl
    rw [front, ih, List.filter_cons]
    split <;> rfl

/-- What is set for this run under the key of an option is what was said about it. -/
theorem lastText?_saidEntries (said : List (String × Value)) (field : Field) :
    lastText? (Settings.saidEntries said) field.key = saidFor said field := by
  rw [lastText?, saidFor, saidEntries_eq, List.filter_map, List.filter_filter, List.getLast?_map,
    Option.map_map]
  rfl

/-- Each option of one run is governed by what was said for this run, over the settings. -/
theorem configFor_governs {s : Settings} (sound : s.config.Sound) {said : List (String × Value)}
    {c : Config} (h : s.configFor said = .ok c) (field : Field) :
    Governs field s.config c (saidFor said field) := by
  unfold Settings.configFor at h
  split at h
  · cases h
  · split at h
    · next read =>
      obtain rfl := Except.ok.inj h
      have governs := ofEntries_governs read field
      rw [getText?_insertAll, getText?_dump, lastText?_saidEntries] at governs
      cases what : saidFor said field with
      | some v => rwa [what] at governs
      | none =>
        rw [what] at governs
        exact (Except.ok.inj ((taken_valueOf sound field).symm.trans governs)).symm
    · cases h

end ReleaseRefs.Proofs.Config
