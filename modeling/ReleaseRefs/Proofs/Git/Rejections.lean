import ReleaseRefs.Proofs.Git.Retries

/-!
# `ReleaseRefs.Proofs.Git.Rejections`: pushes that the remote rejects

A push that the remote rejected is not meant to be tried again. Two questions are put to what a push
printed: whether it tells of a passing failure decides on another attempt, and whether it tells of a
rejection decides what the failure is called in the end. They are put apart from each other, and a
text may answer yes to both.

- `IsRejection` says that a failed push is called a rejection.
- `push_stopped` has the attempts of a push and what a failure of the last one comes to.
- `rejected_pushes_settled`: a rejection ends the attempts unless it also tells of a passing failure
  and retries are left. If it ends them, it is what the push fails with.
-/

set_option autoImplicit false

namespace ReleaseRefs.Proofs.Git

open ReleaseRefs.Git

/-- The failure is one of a push of the ref that the remote rejected. -/
def IsRejection (ref : String) (f : CommandFailure) : Prop :=
  ∃ reason, (diagnose f "push" ref).fault = .rejected reason

/-- The failure that a rejected push is called. -/
def rejection (ref : String) (f : CommandFailure) : GitFailure :=
  ⟨.rejected (Text.strip f.output), "Remote rejected push of " ++ ref⟩

/-- A failed push is called a rejection exactly if its output has a mark of one, whatever else the
output has. -/
theorem isRejection_iff {ref : String} {f : CommandFailure} :
    IsRejection ref f ↔ mentions refusalMarks f.output = true := by
  unfold IsRejection diagnose
  by_cases marked : mentions refusalMarks f.output = true
  · exact iff_of_true ⟨Text.strip f.output, by simp [marked]⟩ marked
  · refine iff_of_false ?_ marked
    rintro ⟨reason, rejected⟩
    simp [marked] at rejected

/-- A rejection is diagnosed as such. -/
theorem IsRejection.diagnose_eq {ref : String} {f : CommandFailure} (rejected : IsRejection ref f) :
    diagnose f "push" ref = rejection ref f := by
  rw [diagnose, if_neg (by decide), if_pos ⟨rfl, isRejection_iff.1 rejected⟩, rejection]

section Repositories

variable {γ : Type} (p : Program γ)

/-- A push is tried until it stops, and it fails with what a failure of the last attempt comes
to. -/
theorem push_stopped (ref : String) (s : Repository γ) :
    ∃ failures,
      Stopped (outcome p (Repository.pushWords s.dryRun s.remote ref) s.git) s.maxRetries failures ∧
      (Repository.push p ref s).2.actions = s.actions ++
        retryTrace (Repository.pushWords s.dryRun s.remote ref) s.timeout 0 failures.length ∧
      ∀ e, settled "push" ref (outcome p (Repository.pushWords s.dryRun s.remote ref) s.git
            failures.length) = .error e →
        (Repository.push p ref s).1 = .error e := by
  obtain ⟨failures, stopped, run⟩ :=
    overNetwork_run p "push" (Repository.pushWords s.dryRun s.remote ref) ref s
  refine ⟨failures, stopped, ?_⟩
  rw [Repository.push, bind_ok _ (get_run s)]
  rcases last : settled "push" ref (outcome p _ s.git failures.length) with e | out <;>
    rw [last] at run
  · rw [bind_error _ run]
    exact ⟨rfl, fun e' same => by rw [Except.error.inj same]⟩
  · rw [bind_ok _ run]
    refine ⟨rfl, fun e failed => ?_⟩
    cases failed

/-- When the attempts of a push end with a rejection, and what the push fails with then.

The trace of a push is the one of its attempts up to the last, with the pauses in between. For each
of these attempts that was rejected:

- it was the last one exactly if no retry was left or if its output tells of no passing failure;
- if it was the last one, the push fails with the rejection, and with what git printed as the
  reason.

A failure is a rejection exactly if its output has a mark of one, and so the same failure may be a
rejection and worth another attempt. -/
theorem rejected_pushes_settled (ref : String) (s : Repository γ) :
    (∃ last,
      (Repository.push p ref s).2.actions = s.actions ++
        retryTrace (Repository.pushWords s.dryRun s.remote ref) s.timeout 0 last ∧
      ∀ i ≤ last, ∀ f : CommandFailure,
        outcome p (Repository.pushWords s.dryRun s.remote ref) s.git i = .error (.command f) →
        IsRejection ref f →
        (i = last ↔ i = s.maxRetries ∨ mentions transientMarks f.output = false) ∧
        (i = last →
          (Repository.push p ref s).1 =
            .error (.fromCause (.git (rejection ref f)) (.command f)))) ∧
    ∀ f : CommandFailure, IsRejection ref f ↔ mentions refusalMarks f.output = true := by
  refine ⟨?_, fun f => isRejection_iff⟩
  obtain ⟨failures, stopped, actions, fails⟩ := push_stopped p ref s
  refine ⟨failures.length, actions, fun i within f failed rejected => ⟨⟨?_, ?_⟩, ?_⟩⟩
  · rintro rfl
    rcases Nat.lt_or_eq_of_le stopped.bound with left | used
    · have lasting := stopped.final left
      rw [failed] at lasting
      exact .inr lasting
    · exact .inl used
  · rintro (used | lasting)
    · exact Nat.le_antisymm within (used ▸ stopped.bound)
    · -- An attempt before the last one was followed by another for a passing failure.
      refine Nat.le_antisymm within (Nat.le_of_not_lt fun early => ?_)
      have passes := stopped.mayPass early
      rw [failed] at passes
      exact Bool.false_ne_true (lasting.symm.trans passes)
  · rintro rfl
    refine fails _ ?_
    rw [failed, settled, rejected.diagnose_eq]

end Repositories

/-- A push that was rejected, with what was printed before that was told. -/
def rejectedBy (printed : String) (words : List String) : CommandFailure :=
  ⟨words, .code 1, printed ++ "\n ! [rejected] v1.0.0", ""⟩

/-- A remote that rejects two pushes. The first time a refused connection is told too. -/
def hooked : Repository Script :=
  let prepared := [.fails fun words => .command (rejectedBy "Connection refused" words),
    .fails fun words => .command (rejectedBy "Locked" words)]
  { Repository.unopened ⟨none, .ok [], fun word => if word = "push" then prepared else []⟩
      Repository.usualTimeout with remote := "origin" }

/-- A push that is rejected with the word of a refused connection is tried again. When it is
rejected without, it fails. -/
theorem rejected_pushes_settled_hook :
    let words := ["push", "origin", "refs/tags/v1.0.0"]
    let last := rejectedBy "Locked" ("git" :: words)
    (Repository.push Script.program "refs/tags/v1.0.0" hooked).2.actions =
      [.ran words (some Repository.usualTimeout), .slept 1,
        .ran words (some Repository.usualTimeout)] ∧
    (Repository.push Script.program "refs/tags/v1.0.0" hooked).1 =
      .error (.fromCause (.git (rejection "refs/tags/v1.0.0" last)) (.command last)) := by
  intro words last
  let first := rejectedBy "Connection refused" ("git" :: words)
  obtain ⟨⟨count, actions, rejected⟩, marked⟩ :=
    rejected_pushes_settled Script.program "refs/tags/v1.0.0" hooked
  obtain ⟨ends, -⟩ := rejected 0 (Nat.zero_le _) first rfl ((marked first).2 (by decide +kernel))
  have passing : mentions transientMarks first.output = true := by decide +kernel
  have retried : 0 ≠ count := fun none => by
    rcases ends.1 none with used | lasting
    · cases used
    · cases lasting.symm.trans passing
  obtain ⟨ends, fails⟩ := rejected 1 (Nat.one_le_iff_ne_zero.2 retried.symm) last rfl
    ((marked last).2 (by decide +kernel))
  obtain rfl := ends.2 (.inr (by decide +kernel))
  exact ⟨actions, fails rfl⟩

end ReleaseRefs.Proofs.Git
