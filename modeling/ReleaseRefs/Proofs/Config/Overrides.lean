import Mathlib.Data.List.Basic
import ReleaseRefs.Proofs.Config.Fields
import ReleaseRefs.Proofs.Config.Refusals
import ReleaseRefs.Proofs.Run

/-!
# `ReleaseRefs.Proofs.Config.Overrides`: what is said for one run

What the command line says is put over the settings, and then all options are read once more: those
that were said, and those that stay as they were. This module says that reading the others again
changes nothing, so that each option that was said can be looked at by itself.

- `ofEntries_flaws`: options that are refused are refused for the flaws of their entries, in the
  order of the options.
- `configFor_eq`: of all that was said for a run, only the options count. Either each of them takes
  what was said about it, or the flaws of those that do not are told.
- `overrides_taken_or_refused` says what the options of the run are, and which flaw is reported.
- `own_name_refused`: one name cannot be said at all.
-/

set_option autoImplicit false

namespace ReleaseRefs.Proofs.Config

open ReleaseRefs.Config

/-! ### Flaws of single options -/

/-- The option takes the value. -/
def Takes (field : Field) (v : Value) : Prop := ∃ w, taken field v = .ok w

/-- What is wrong with a value, if the option does not take it. -/
def flaw? (field : Field) (v : Value) : Option FieldError :=
  match taken field v with
  | .ok _ => none
  | .error c => some ⟨[field.key], c, v⟩

theorem flaw?_eq_none_iff {field : Field} {v : Value} : flaw? field v = none ↔ Takes field v := by
  unfold flaw? Takes
  cases taken field v <;> simp

theorem flaw?_eq_some_iff {field : Field} {v : Value} {e : FieldError} :
    flaw? field v = some e ↔ ∃ c, taken field v = .error c ∧ e = ⟨[field.key], c, v⟩ := by
  unfold flaw?
  cases taken field v <;> simp [eq_comm]

/-- The flaws of the entries of a mapping, in the order of the options. -/
def flaws (es : Entries) : List FieldError :=
  Field.all.filterMap fun field => (es.getText? field.key).bind (flaw? field)

/-- An option complains of the flaw of its entry. -/
theorem complaint_readField {α : Type} (field : Field) {read : Value → Except Complaint α}
    (wrap : α → Value) (takes : ∀ v, taken field v = (read v).map wrap) (es : Entries) (usual : α) :
    Config.complaint (readField es field read usual) =
      ((es.getText? field.key).bind (flaw? field)).toList := by
  unfold readField
  cases es.getText? field.key with
  | none => rfl
  | some v =>
    simp only [Option.bind_some, flaw?, takes]
    cases read v <;> rfl

/-- Options that are refused are refused for the flaws of their entries. -/
theorem ofEntries_flaws {base : Config} {es : Entries} {errors : List FieldError}
    (refused : Config.ofEntries base es = .error errors) : errors = flaws es := by
  unfold Config.ofEntries at refused
  simp only at refused
  split at refused
  · cases refused
  · rw [← Except.error.inj refused]
    rw [complaint_readField .dryRun .bool fun _ => rfl,
      complaint_readField .maxRetries .int fun _ => rfl,
      complaint_readField .repoPath .path fun _ => rfl,
      complaint_readField .defaultBranch .text fun _ => rfl,
      complaint_readField .remote .text fun _ => rfl,
      complaint_readField .tagPrefix .text fun _ => rfl]
    simp [flaws, Field.all, List.filterMap_eq_flatMap_toList]

/-- Entries of options that were read have no flaw. -/
theorem flaws_eq_nil_of_ok {base c : Config} {es : Entries}
    (read : Config.ofEntries base es = .ok c) : flaws es = [] := by
  rw [flaws, List.filterMap_eq_nil_iff]
  intro field _
  have governs := ofEntries_governs read field
  cases found : es.getText? field.key with
  | none => rfl
  | some v =>
    rw [found] at governs
    exact flaw?_eq_none_iff.2 ⟨_, governs⟩

/-- Only the entries of the options decide. -/
theorem ofEntries_congr {es fs : Entries}
    (same : ∀ field : Field, es.getText? field.key = fs.getText? field.key) (base : Config) :
    Config.ofEntries base es = Config.ofEntries base fs := by
  simp only [Config.ofEntries, readField, same]

/-! ### What is said over the settings -/

/-- Nothing is said under the name by which the settings themselves are known. -/
def Sayable (said : List (String × Value)) : Prop := ∀ o ∈ said, o.1 ≠ Settings.ownName

instance (said : List (String × Value)) : Decidable (Sayable said) :=
  inferInstanceAs (Decidable (∀ o ∈ said, o.1 ≠ Settings.ownName))

section Saying

variable {s : Settings} {said other : List (String × Value)}

/-- Under the key of an option stands what was said about it, or else its value in the settings. -/
theorem getText?_said (s : Settings) (said : List (String × Value)) (field : Field) :
    (s.config.dump.insertAll (Settings.saidEntries said)).getText? field.key =
      (saidFor said field <|> some (valueOf s.config field)) := by
  rw [getText?_insertAll, getText?_dump, lastText?_saidEntries]

/-- Nothing is wrong with the options that stay as they were. -/
theorem flaws_said (sound : s.config.Sound) (said : List (String × Value)) :
    flaws (s.config.dump.insertAll (Settings.saidEntries said)) =
      Field.all.filterMap fun field => (saidFor said field).bind (flaw? field) := by
  unfold flaws
  congr 1
  funext field
  rw [getText?_said]
  cases saidFor said field with
  | some v => rfl
  | none => exact flaw?_eq_none_iff.2 ⟨_, taken_valueOf sound field⟩

/-- The options of a run are read from the settings with what was said over them. -/
theorem configFor_said (sayable : Sayable said) :
    s.configFor said =
      (Config.ofEntries s.config (s.config.dump.insertAll (Settings.saidEntries said))).mapError
        Settings.invalidFailure := by
  have notOwn : (said.any fun o => o.1 == Settings.ownName) = false := by
    simpa [Sayable] using sayable
  rw [Settings.configFor, notOwn, if_neg Bool.false_ne_true]
  cases Config.ofEntries s.config _ <;> rfl

/-- Of all that was said for a run, only the options count. Each takes what was said about it, or
the flaws of those that do not are told. -/
theorem configFor_eq (sound : s.config.Sound) (sayable : Sayable said) :
    match Field.all.filterMap fun field => (saidFor said field).bind (flaw? field) with
    | [] => ∃ c, s.configFor said = .ok c
    | errors => s.configFor said = .error (Settings.invalidFailure errors) := by
  rw [configFor_said sayable, ← flaws_said sound said]
  cases read : Config.ofEntries s.config
      (s.config.dump.insertAll (Settings.saidEntries said)) with
  | ok c =>
    rw [flaws_eq_nil_of_ok read]
    exact ⟨c, rfl⟩
  | error errors =>
    have some := ofEntries_error_ne_nil read
    rw [← ofEntries_flaws read]
    cases errors with
    | nil => exact absurd rfl some
    | cons => rfl

/-- Two ways to say the same about every option come to the same. -/
theorem configFor_congr (sayable : Sayable said) (sayable' : Sayable other)
    (same : ∀ field, saidFor other field = saidFor said field) :
    s.configFor other = s.configFor said := by
  rw [configFor_said sayable, configFor_said sayable']
  congr 1
  refine ofEntries_congr (fun field => ?_) s.config
  rw [getText?_said, getText?_said, same]

/-- The first of the options in their order that does not take what was said about it, with the
complaint and what was said. -/
structure FirstRefused (said : List (String × Value)) (field : Field) (c : Complaint) (v : Value) :
    Prop where
  value : saidFor said field = some v
  refused : taken field v = .error c
  first : ∃ before after, Field.all = before ++ field :: after ∧
    ∀ f ∈ before, ∀ u, saidFor said f = some u → Takes f u

/-- The options of a run are refused for the first option that does not take what was said. -/
theorem configFor_refused (sound : s.config.Sound) (sayable : Sayable said) {e : Raised}
    (failed : s.configFor said = .error e) :
    ∃ field c v, FirstRefused said field c v ∧
      e.failure = .config ⟨"Invalid configuration: " ++ c.message, some field.key, v⟩ := by
  have all := configFor_eq sound sayable
  split at all
  · obtain ⟨c, ok⟩ := all
    cases ok.symm.trans failed
  · next nonempty =>
    obtain rfl := Except.error.inj (all.symm.trans failed)
    obtain ⟨first, rest, told⟩ := List.exists_cons_of_ne_nil nonempty
    obtain ⟨before, field, after, order, fit, found, -⟩ := List.filterMap_eq_cons_iff.1 told
    obtain ⟨v, value, flaw⟩ := Option.bind_eq_some_iff.1 found
    obtain ⟨c, refused, rfl⟩ := flaw?_eq_some_iff.1 flaw
    refine ⟨field, c, v, ⟨value, refused, before, after, order, fun f early u said => ?_⟩, ?_⟩
    · have none := fit f early
      rw [said] at none
      exact flaw?_eq_none_iff.1 none
    · rw [told]
      rfl

/-- The options of a run are accepted exactly if every option takes what was said about it. -/
theorem configFor_isOk_iff (sound : s.config.Sound) (sayable : Sayable said) :
    (∃ c, s.configFor said = .ok c) ↔
      ∀ field v, saidFor said field = some v → Takes field v := by
  constructor
  · rintro ⟨c, ok⟩ field v value
    have governs := configFor_governs sound ok field
    rw [value] at governs
    exact ⟨_, governs⟩
  · intro takes
    cases configured : s.configFor said with
    | ok c => exact ⟨c, rfl⟩
    | error e =>
      obtain ⟨field, c, v, first, -⟩ := configFor_refused sound sayable configured
      obtain ⟨w, taken⟩ := takes field v first.value
      cases first.refused.symm.trans taken

/-- Where nothing was said about an option, the options stay as they were. -/
theorem configFor_unsaid (sound : s.config.Sound) (sayable : Sayable said)
    (unsaid : ∀ field, saidFor said field = none) : s.configFor said = .ok s.config := by
  rw [← Settings.configFor_nil s sound]
  exact configFor_congr nofun sayable fun field => (unsaid field).trans rfl

end Saying

/-- What is said for one run over settings that were loaded, if it can be said at all.

- The run has options exactly if every option takes what was said about it. Each of them then is
  what it took the value for, and all others are as in the settings.
- Otherwise the first option in their order that does not take its value is reported, with the value
  as it was said.
- If nothing was said about an option, the options are those of the settings; they are also what is
  read from them when they are written down as a mapping.
- Nothing else counts: neither other names, nor the order in which things were said.

The settings are only read, so they are the same for every run. -/
theorem overrides_taken_or_refused {w : Surroundings} {chosen : Option Path} {s : Settings}
    (loaded : (Settings.load w chosen).2 = .ok s) {said : List (String × Value)}
    (sayable : Sayable said) :
    ((∃ c, s.configFor said = .ok c) ↔ ∀ field v, saidFor said field = some v → Takes field v) ∧
    (∀ c, s.configFor said = .ok c → ∀ field, Governs field s.config c (saidFor said field)) ∧
    (∀ e, s.configFor said = .error e → ∃ field c v, FirstRefused said field c v ∧
      e.failure = .config ⟨"Invalid configuration: " ++ c.message, some field.key, v⟩) ∧
    ((∀ field, saidFor said field = none) → s.configFor said = .ok s.config) ∧
    (∀ workingDirectory, Config.ofValue workingDirectory (.map s.config.dump) = .ok s.config) ∧
    ∀ other, Sayable other → (∀ field, saidFor other field = saidFor said field) →
      s.configFor other = s.configFor said := by
  have sound := Settings.load_sound loaded
  exact ⟨configFor_isOk_iff sound sayable, fun c ok => configFor_governs sound ok,
    fun e failed => configFor_refused sound sayable failed, configFor_unsaid sound sayable,
    fun workingDirectory => Config.ofValue_dump workingDirectory sound,
    fun other sayable' same => configFor_congr sayable sayable' same⟩

/-- The settings where neither a file nor a variable says anything. -/
def bareSettings : Settings := ⟨Config.default ⟨"/work"⟩, .warning⟩

/-- Values that are false, zero or empty, one that is null and one under no option's name. -/
def falsySaid : List (String × Value) :=
  [("tag_prefix", .text ""), ("max_retries", .text "0"), ("remote", .null), ("dry_run", .int 0),
    ("shade", .bool true)]

/-- Two values that are not taken, the one for the later option first. -/
def unfitSaid : List (String × Value) := [("remote", .text " "), ("max_retries", .int (-1))]

/-- What is false, zero or empty is said as well. Of two values that are not taken, the one for the
earlier option is reported. -/
theorem overrides_taken_or_refused_falsy :
    (Settings.load ⟨⟨⟨"/work"⟩, []⟩, []⟩ none).2 = .ok bareSettings ∧
    Sayable falsySaid ∧ Sayable unfitSaid ∧
    (∀ field, Governs field bareSettings.config
      { bareSettings.config with dryRun := false, maxRetries := 0, tagPrefix := "" }
      (saidFor falsySaid field)) ∧
    ∃ field c v, FirstRefused unfitSaid field c v ∧ field.key = "max_retries" ∧ v = .int (-1) := by
  have loaded : (Settings.load ⟨⟨⟨"/work"⟩, []⟩, []⟩ none).2 = .ok bareSettings :=
    ok_of_toOption (by decide +kernel)
  have falsy : Sayable falsySaid := by decide
  have unfit : Sayable unfitSaid := by decide
  obtain ⟨-, governs, -⟩ := overrides_taken_or_refused loaded falsy
  obtain ⟨-, -, refused, -⟩ := overrides_taken_or_refused loaded unfit
  obtain ⟨field, c, v, first, told⟩ := refused _ rfl
  obtain ⟨-, key, value⟩ := ConfigFailure.mk.inj (Failure.config.inj told)
  exact ⟨loaded, falsy, unfit, governs _ (ok_of_toOption (by decide +kernel)),
    field, c, v, first, (Option.some.inj key).symm, value.symm⟩

/-- The name by which the settings themselves are known cannot be said, although no option has
it. -/
theorem own_name_refused :
    (Settings.load ⟨⟨⟨"/work"⟩, []⟩, []⟩ none).2 = .ok bareSettings ∧
      (∀ field, saidFor [("self", .int 1)] field = none) ∧
      bareSettings.configFor [("self", .int 1)] = .error (.plain (.fault .type
        "PublisherSettings.publisher_config() got multiple values for argument 'self'")) := by
  refine ⟨ok_of_toOption (by decide +kernel), fun field => ?_, rfl⟩
  cases field <;> rfl

end ReleaseRefs.Proofs.Config
