import ReleaseRefs.Proofs.Git.Retries

/-!
# `ReleaseRefs.Proofs.Git.Commands`: settings and command lines of a repository in use

A repository has a mode and a number of retries, which calls can set at any time. Every other call
leaves them alone, however it ends, and a command line is made from the settings at the time of the
call.

- `Terms` is what a command line is made from. `perform_terms` says what one call makes of it, and
  `after_terms` has a row of calls, by induction on the row.
- `Carries` has the commands that stand for each call. `perform_carries` goes through the calls.
- `repository_commands` puts both together for a repository from its opening on.
-/

set_option autoImplicit false

namespace ReleaseRefs.Proofs.Git

open ReleaseRefs.Git
open ReleaseRefs.Publish (Call)

/-! ### Settings -/

/-- What the commands of a repository are made from. -/
structure Terms where
  remote : String
  timeout : Value
  dryRun : Bool
  maxRetries : Nat

/-- The mode that a call sets. -/
def mode? : Call → Option Bool
  | .setDryRun b => some b
  | _ => none

/-- The number of retries that a call sets. A negative number sets nothing. -/
def retries? : Call → Option Nat
  | .setMaxRetries n => if n < 0 then none else some n.toNat
  | _ => none

/-- The terms after a call: it sets what it is for, and nothing else. -/
def Terms.set (k : Terms) (c : Call) : Terms :=
  { k with
      dryRun := (mode? c).getD k.dryRun
      maxRetries := (retries? c).getD k.maxRetries }

/-- A call that is for nothing of the kind sets nothing. -/
theorem Terms.set_eq {c : Call} (k : Terms) (mode : mode? c = none) (retries : retries? c = none) :
    k.set c = k := by
  rw [Terms.set, mode, retries, Option.getD_none, Option.getD_none]

/-- The mode that was set last. In the beginning, pushes are real. -/
def lastMode (calls : List Call) : Bool := (calls.filterMap mode?).getLast?.getD false

/-- The number of retries that was set last. In the beginning there are three. -/
def lastRetries (calls : List Call) : Nat := (calls.filterMap retries?).getLast?.getD 3

example :
    lastRetries [.setMaxRetries 5, .push "refs/heads/release-1.0", .setMaxRetries (-1)] = 5 := by
  decide

section Repositories

variable {γ : Type} (p : Program γ)

/-- The terms of a repository. -/
def terms (s : Repository γ) : Terms := ⟨s.remote, s.timeout, s.dryRun, s.maxRetries⟩

/-- The repository after a row of calls, however each of them ends. -/
def after (calls : List Call) (s : Repository γ) : Repository γ :=
  calls.foldl (fun t c => (Repository.perform p c t).2) s

variable {p} in
/-- Deeds leave the terms alone. -/
theorem Did.terms_eq {s t : Repository γ} {xs : List Deed} (did : Did p s xs t) :
    terms t = terms s := by
  rw [terms, did.remote, did.timeout, did.dryRun, did.maxRetries]
  rfl

/-- To set the number of retries fails for a negative number, and then changes nothing. -/
theorem setMaxRetries_run (n : Int) (s : Repository γ) :
    Repository.perform p (.setMaxRetries n) s =
      if n < 0 then
        (.error (.plain (.fault .value ("max_retries must be >= 0, got " ++ toString n))), s)
      else (.ok (), { s with maxRetries := n.toNat }) := rfl

/-- A look-up on the remote leaves the terms alone. -/
theorem hasRemoteRef_terms (kind : Ref.Kind) (name : String) (s : Repository γ) :
    terms (Repository.hasRemoteRef p kind name s).2 = terms s := by
  rcases hasRemoteRef_did p s kind name with ⟨d, e, -, refused⟩ | ⟨_, xs, _, -, -, -, did, -⟩
  · rw [refused]
  · exact did.terms_eq

/-- A call sets what it is for, and nothing else, however it ends. -/
theorem perform_terms (c : Call) (s : Repository γ) :
    terms (Repository.perform p c s).2 = (terms s).set c := by
  cases c with
  | checkout branch => exact (checkout_did p s branch).1.terms_eq
  | setDryRun b => rfl
  | setMaxRetries n =>
    rw [setMaxRetries_run, Terms.set, retries?]
    split <;> rfl
  | hasLocalBranch name => exact (hasLocalBranch_did p s name).1.terms_eq
  | hasRemoteBranch name => exact hasRemoteRef_terms p .branch name s
  | tagsOnBranch branch => exact (tagsOnBranch_did p s branch).1.terms_eq
  | hasRemoteTag name => exact hasRemoteRef_terms p .tag name s
  | push ref =>
    obtain ⟨_, _, _, -, -, did, -⟩ := push_did p s ref
    exact did.terms_eq
  | close => exact (close_did p s).1.terms_eq

/-- What a row of calls sets last is what the calls after the first set last, or else the first. -/
theorem lastSet_cons {α : Type} (f : Call → Option α) (c : Call) (calls : List Call) (a : α) :
    ((c :: calls).filterMap f).getLast?.getD a =
      (calls.filterMap f).getLast?.getD ((f c).getD a) := by
  rw [List.filterMap_cons]
  cases f c with
  | none => rfl
  | some b => rw [List.getLast?_cons, Option.getD_some, Option.getD_some]

/-- After a row of calls, the settings are those that were set last, if any were. -/
theorem after_terms (calls : List Call) (s : Repository γ) :
    terms (after p calls s) =
      ⟨s.remote, s.timeout, (calls.filterMap mode?).getLast?.getD s.dryRun,
        (calls.filterMap retries?).getLast?.getD s.maxRetries⟩ := by
  -- On the row. The terms after the first call are those that the others start from.
  induction calls generalizing s with
  | nil => rfl
  | cons c calls ih =>
    obtain ⟨remote, timeout, dryRun, maxRetries⟩ := Terms.mk.inj (perform_terms p c s)
    show terms (after p calls (Repository.perform p c s).2) = _
    rw [ih, lastSet_cons, lastSet_cons, remote, timeout, dryRun, maxRetries]
    rfl

/-! ### Command lines -/

/-- The trace of a network command on terms: it is run at least once, and at most once more for each
retry, with the same words and the same time limit. -/
def Attempted (k : Terms) (words : List String) (trace : List Action) : Prop :=
  ∃ count ≤ k.maxRetries, trace = retryTrace words k.timeout 0 count

/-- The trace of a question to the remote, which is not asked if it is refused. -/
def Asked (k : Terms) (option ref : String) (trace : List Action) : Prop :=
  match danger? k.remote with
  | some _ => trace = []
  | none => Attempted k ["ls-remote", option, k.remote, ref] trace

/-- The trace of a call on terms. -/
def Carries (k : Terms) : Call → List Action → Prop
  | .checkout branch, trace => trace = [.ran ["checkout", branch] none]
  | .setDryRun _, trace => trace = []
  | .setMaxRetries _, trace => trace = []
  | .hasLocalBranch _, trace => trace = []
  | .hasRemoteBranch name, trace => Asked k "--heads" ("refs/heads/" ++ name) trace
  | .tagsOnBranch branch, trace =>
    trace = [.ran ["tag", "--sort=-v:refname", "--merged", branch] none]
  | .hasRemoteTag name, trace => Asked k "--tags" ("refs/tags/" ++ name) trace
  | .push ref, trace =>
    Attempted k (["push"] ++ (if k.dryRun then ["--dry-run"] else []) ++ [k.remote, ref]) trace
  | .close, trace => trace = [.closed]

/-- A network command with retries is attempted, and what follows it is no command. -/
theorem RetriedTo.attempted {α : Type} {operation : String} {words : List String} {ref : String}
    {next : String → Job γ α} {s : Repository γ} {run : Except Raised α × Repository γ}
    (retriedTo : RetriedTo p operation words ref next s run)
    (quiet : ∀ out t, (next out t).2.actions = t.actions) :
    ∃ trace, run.2.actions = s.actions ++ trace ∧ Attempted (terms s) words trace := by
  obtain ⟨failures, used, rfl, -⟩ := retriedTo
  refine ⟨_, ?_, failures.length, used.length_le, rfl⟩
  cases settled operation ref (outcome p words s.git failures.length) with
  | error e => rfl
  | ok out => exact quiet out _

/-- A look-up on the remote asks for the full ref, with the option for its kind. -/
theorem hasRemoteRef_asked (kind : Ref.Kind) (name : String) (s : Repository γ) :
    ∃ trace, (Repository.hasRemoteRef p kind name s).2.actions = s.actions ++ trace ∧
      Asked (terms s) (Repository.listingOption kind) (kind.fullRef name) trace := by
  cases danger : danger? s.remote with
  | some d =>
    rw [hasRemoteRef_refused p kind name danger]
    exact ⟨[], (List.append_nil _).symm, by simp only [Asked, terms, danger]⟩
  | none =>
    simp only [Asked, terms, danger]
    exact (hasRemoteRef_retriedTo p kind name danger).attempted p fun _ _ => rfl

/-- The trace grows by what stands for a call, however the call ends. -/
theorem perform_carries (c : Call) (s : Repository γ) :
    ∃ trace, (Repository.perform p c s).2.actions = s.actions ++ trace ∧
      Carries (terms s) c trace := by
  cases c with
  | checkout branch => exact ⟨_, (checkout_did p s branch).1.actions, rfl⟩
  | setDryRun b => exact ⟨[], (List.append_nil _).symm, rfl⟩
  | setMaxRetries n =>
    refine ⟨[], ?_, rfl⟩
    rw [setMaxRetries_run, List.append_nil]
    split <;> rfl
  | hasLocalBranch name => exact ⟨_, (hasLocalBranch_did p s name).1.actions, rfl⟩
  | hasRemoteBranch name => exact hasRemoteRef_asked p .branch name s
  | tagsOnBranch branch => exact ⟨_, (tagsOnBranch_did p s branch).1.actions, rfl⟩
  | hasRemoteTag name => exact hasRemoteRef_asked p .tag name s
  | push ref => exact (push_retriedTo p ref s).attempted p fun _ _ => rfl
  | close => exact ⟨_, (close_did p s).1.actions, rfl⟩

/-- After any row of calls on an opened repository, the settings are those that were set last, a
negative number of retries is refused without a change, and whatever is called next, the command
lines are made from these settings and from the remote and the time limit that the repository was
opened with. -/
theorem repository_commands (git : γ) (timeout : Value) (place : Place) (remote : String)
    (calls : List Call) :
    let s := after p calls (Repository.openAt p place remote (.unopened git timeout)).2
    let k : Terms := ⟨remote, timeout, lastMode calls, lastRetries calls⟩
    terms s = k ∧
      (∀ n, Repository.perform p (.setMaxRetries n) s =
        if n < 0 then
          (.error (.plain (.fault .value ("max_retries must be >= 0, got " ++ toString n))), s)
        else (.ok (), { s with maxRetries := n.toNat })) ∧
      ∀ c, ∃ trace, (Repository.perform p c s).2.actions = s.actions ++ trace ∧
        Carries k c trace := by
  intro s k
  have set : terms s = k :=
    after_terms p calls (Repository.openAt p place remote (.unopened git timeout)).2
  refine ⟨set, fun n => setMaxRetries_run p n s, fun c => ?_⟩
  rw [← set]
  exact perform_carries p c s

end Repositories

end ReleaseRefs.Proofs.Git
