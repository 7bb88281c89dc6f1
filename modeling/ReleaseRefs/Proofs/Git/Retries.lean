import Mathlib.Data.Nat.Find
import ReleaseRefs.Proofs.Git.Deeds

/-!
# `ReleaseRefs.Proofs.Git.Retries`: how a network command is tried again

A network command is written down in full: how often it is run, the pauses in between, the events
about them, and the result. All of it follows from what git answers when the command is run over and
over.

- `outcome` is the answer to a run of a command. `Retried` says which outcomes used up a retry:
  those before the first one that will not pass by itself, as far as the retries go.
- `attempts_run` has the loop, by induction on the retries that are left. `overNetwork_run` has the
  whole command, with `settled` for what the last outcome comes to.
- `LastResort` says that a failure that is worth another attempt comes up after the last retry only.
- `network_commands_retried` puts the push and the look-ups on the remote together.
  `refused_remote_is_not_tried`: a remote that is refused is the exception.
-/

set_option autoImplicit false

namespace ReleaseRefs.Proofs.Git

open ReleaseRefs.Git

section Repositories

variable {γ : Type} (p : Program γ)

/-! ### Outcomes -/

/-- What git goes on with after a command was run so often. -/
def gitAfter (words : List String) : Nat → γ → γ
  | 0, g => g
  | count + 1, g => gitAfter words count (p.run words g).2

/-- The answer of git to a command that was run so often before. -/
def outcome (words : List String) (g : γ) (count : Nat) : Except Failure String :=
  (p.run words (gitAfter p words count g)).1

/-- The outcome is a failure that may pass by itself. -/
def mayPass : Except Failure String → Bool
  | .ok _ => false
  | .error f => isTransient f

/-- The failures that used up a retry: the outcomes before the first one that will not pass, as far
as the retries go. -/
structure Retried (outcomes : Nat → Except Failure String) (maxRetries : Nat)
    (failures : List Failure) : Prop where
  answered : ∀ i f, failures[i]? = some f → outcomes i = .error f
  upTo : ∀ j, (∀ i < j, mayPass (outcomes i) = true) → mayPass (outcomes j) = false →
    failures.length = min j maxRetries
  exhausted : (∀ i, mayPass (outcomes i) = true) → failures.length = maxRetries

/-- The failures of a row of attempts that stopped: each of them may pass, and if retries were left
then the next outcome will not. -/
structure Stopped (outcomes : Nat → Except Failure String) (maxRetries : Nat)
    (failures : List Failure) : Prop where
  answered : ∀ i f, failures[i]? = some f → outcomes i = .error f ∧ isTransient f = true
  bound : failures.length ≤ maxRetries
  final : failures.length < maxRetries → mayPass (outcomes failures.length) = false

section Outcomes

variable {outcomes : Nat → Except Failure String} {maxRetries : Nat} {failures : List Failure}

/-- Every outcome that used up a retry may pass. -/
theorem Stopped.mayPass (stopped : Stopped outcomes maxRetries failures) {i : Nat}
    (early : i < failures.length) : mayPass (outcomes i) = true := by
  obtain ⟨answer, transient⟩ := stopped.answered i failures[i] (List.getElem?_eq_getElem early)
  rw [answer]
  exact transient

/-- Attempts that stop with a failure that may pass have used up their retries. -/
theorem Stopped.length_eq (stopped : Stopped outcomes maxRetries failures)
    (passes : Git.mayPass (outcomes failures.length) = true) : failures.length = maxRetries := by
  refine Nat.le_antisymm stopped.bound (Nat.le_of_not_lt fun left => ?_)
  cases passes.symm.trans (stopped.final left)

/-- Attempts of which the same outcomes may pass stop together. -/
theorem Stopped.together {outcomes' : Nat → Except Failure String} {failures' : List Failure}
    (stopped : Stopped outcomes maxRetries failures)
    (stopped' : Stopped outcomes' maxRetries failures')
    (same : ∀ i ≤ maxRetries, Git.mayPass (outcomes i) = Git.mayPass (outcomes' i)) :
    failures.length = failures'.length := by
  -- Where one row of attempts stopped with retries left, the other one cannot have gone on.
  refine Nat.le_antisymm (Nat.le_of_not_lt fun less => ?_) (Nat.le_of_not_lt fun less => ?_)
  · have passes := stopped.mayPass less
    rw [same _ stopped'.bound, stopped'.final (Nat.lt_of_lt_of_le less stopped.bound)] at passes
    cases passes
  · have passes := stopped'.mayPass less
    rw [← same _ stopped.bound, stopped.final (Nat.lt_of_lt_of_le less stopped'.bound)] at passes
    cases passes

/-- Attempts stop at the first outcome that will not pass, as far as the retries go. -/
theorem Stopped.retried (stopped : Stopped outcomes maxRetries failures) :
    Retried outcomes maxRetries failures where
  answered i f found := (stopped.answered i f found).1
  upTo j earlier last := by
    have notAfter : failures.length ≤ j := by
      refine Nat.le_of_not_lt fun early => ?_
      cases (stopped.mayPass early).symm.trans last
    have notBefore : ¬ (failures.length < j ∧ failures.length < maxRetries) := by
      rintro ⟨before, left⟩
      cases (earlier _ before).symm.trans (stopped.final left)
    have bound := stopped.bound
    omega
  exhausted always := stopped.length_eq (always _)

/-- No more retries are used up than there are. -/
theorem Retried.length_le (retried : Retried outcomes maxRetries failures) :
    failures.length ≤ maxRetries := by
  by_cases always : ∀ i, Git.mayPass (outcomes i) = true
  · exact Nat.le_of_eq (retried.exhausted always)
  · have lasting : ∃ j, ¬ Git.mayPass (outcomes j) = true := Classical.not_forall.1 always
    have earlier (i : Nat) (before : i < Nat.find lasting) : Git.mayPass (outcomes i) = true :=
      Decidable.not_not.1 (Nat.find_min lasting before)
    rw [retried.upTo _ earlier (eq_false_of_ne_true (Nat.find_spec lasting))]
    exact Nat.min_le_right _ _

/-- Without a retry no outcome is followed by another. -/
theorem Stopped.none (outcomes : Nat → Except Failure String) : Stopped outcomes 0 [] :=
  ⟨nofun, Nat.le_refl 0, nofun⟩

/-- An outcome that will not pass is the last. -/
theorem Stopped.first (last : Git.mayPass (outcomes 0) = false) : Stopped outcomes maxRetries [] :=
  ⟨nofun, Nat.zero_le _, fun _ => last⟩

/-- One more attempt before the others. -/
theorem Stopped.cons {f : Failure} (failed : outcomes 0 = .error f)
    (transient : isTransient f = true)
    (stopped : Stopped (fun i => outcomes (i + 1)) maxRetries failures) :
    Stopped outcomes (maxRetries + 1) (f :: failures) where
  answered
    | 0, _, found => Option.some.inj found ▸ ⟨failed, transient⟩
    | i + 1, g, found => stopped.answered i g found
  bound := Nat.succ_le_succ stopped.bound
  final left := stopped.final (Nat.lt_of_succ_lt_succ left)

end Outcomes

/-! ### The loop -/

/-- The pauses double from one second up to ten. -/
theorem pause_eq (n : Nat) : Repository.pause (n + 1) = min 10 (Nat.pow 2 n) := by
  unfold Repository.pause
  have positive : 1 ≤ Nat.pow 2 n := Nat.one_le_two_pow
  rcases Nat.lt_or_ge n 4 with small | large
  · rw [Nat.add_sub_cancel, Nat.min_eq_left (Nat.le_of_lt small)]
    show max 1 (min (Nat.pow 2 n) 10) = _
    omega
  · have grown : 16 ≤ Nat.pow 2 n := Nat.pow_le_pow_right (by decide : 0 < 2) large
    rw [Nat.add_sub_cancel, Nat.min_eq_right large]
    show max 1 (min 16 10) = _
    omega

example : (List.range 6).map (fun n => Repository.pause (n + 1)) = [1, 2, 4, 8, 10, 10] := by decide

/-- The trace of a network command that is run and then run again so often, each time after a pause.
So many retries were used before. -/
def retryTrace (words : List String) (timeout : Value) (before count : Nat) : List Action :=
  .ran words (some timeout) :: (List.range count).flatMap fun i =>
    [.slept (min 10 (Nat.pow 2 (i + before))), .ran words (some timeout)]

/-- The repository after a command was run, and run again after each of a row of failures, which are
told with their numbers. So many retries were used before. -/
def retried (operation : String) (words : List String) (before : Nat) (failures : List Failure)
    (s : Repository γ) : Repository γ :=
  { s with
      git := gitAfter p words (failures.length + 1) s.git
      actions := s.actions ++ retryTrace words s.timeout before failures.length
      events := s.events ++
        failures.mapIdx fun i f =>
          Repository.retryEvent operation (i + before + 1) s.maxRetries f }

/-- Without a retry the command was run once. -/
theorem retried_nil (operation : String) (words : List String) (before : Nat) (s : Repository γ) :
    retried p operation words before [] s = ran p words (some s.timeout) s := by
  simp [retried, retryTrace, ran, gitAfter]

/-- The first retry, with the pause before it, comes before the others. -/
theorem retried_cons (operation : String) (words : List String) (before : Nat) (f : Failure)
    (failures : List Failure) (s : Repository γ) :
    retried p operation words before (f :: failures) s =
      retried p operation words (before + 1) failures
        (paused (Repository.pause (before + 1))
          (heard (Repository.retryEvent operation (before + 1) s.maxRetries f)
            (ran p words (some s.timeout) s))) := by
  have count (i : Nat) : i + 1 + before = i + (before + 1) := by omega
  simp only [retried, retryTrace, paused, heard, ran, pause_eq, List.length_cons,
    List.range_succ_eq_map, List.flatMap_cons, List.flatMap_map, List.mapIdx_cons, count,
    Nat.zero_add, List.append_assoc, List.cons_append, List.nil_append]
  rfl

/-- With retries left, a command is run up to the first outcome that will not pass, as far as the
retries go. -/
theorem attempts_run (operation : String) (words : List String) (left before : Nat)
    (s : Repository γ) :
    ∃ failures, Stopped (outcome p words s.git) left failures ∧
      Repository.attempts p operation words left (before + 1) s =
        (.ok (outcome p words s.git failures.length),
          retried p operation words before failures s) := by
  -- On the retries that are left. The outcomes behind the first are those of the next state of git.
  induction left generalizing s before with
  | zero =>
    refine ⟨[], .none _, ?_⟩
    rw [retried_nil, Repository.attempts, bind_ok _ (get_run s), run_run]
    rfl
  | succ left ih =>
    have first : outcome p words s.git 0 = (p.run words s.git).1 := rfl
    rw [attempts_succ]
    split
    · next out answer =>
      rw [answer] at first
      refine ⟨[], .first (by rw [first]; rfl), ?_⟩
      rw [retried_nil, List.length_nil, first]
    · next f answer =>
      rw [answer] at first
      split
      · next transient =>
        obtain ⟨failures, stopped, run⟩ := ih (before + 1)
          (paused (Repository.pause (before + 1))
            (heard (Repository.retryEvent operation (before + 1) s.maxRetries f)
              (ran p words (some s.timeout) s)))
        rw [run, ← retried_cons]
        exact ⟨f :: failures, .cons first transient stopped, rfl⟩
      · next lasting =>
        have last : mayPass (outcome p words s.git 0) = false := by
          rw [first]
          exact eq_false_of_ne_true lasting
        refine ⟨[], .first last, ?_⟩
        rw [retried_nil, List.length_nil, first]

/-! ### One command -/

/-- What the last outcome of a command comes to. A command that ran and failed is diagnosed, any
other failure stays as it is. -/
def settled (operation ref : String) : Except Failure String → Except Raised String
  | .ok out => .ok out
  | .error (.command f) => .error (.fromCause (.git (diagnose f operation ref)) (.command f))
  | .error f => .error (.plain f)

/-- To settle an outcome leaves the repository as it is. -/
theorem settle_eq (operation ref : String) (r : Except Failure String) (s : Repository γ) :
    Repository.settle operation ref r s = (settled operation ref r, s) := by
  rcases r with f | out
  · cases f <;> rfl
  · rfl

/-- A network command is run up to the first outcome that will not pass, as far as the retries go,
and comes to what the last outcome comes to. -/
theorem overNetwork_run (operation : String) (words : List String) (ref : String)
    (s : Repository γ) :
    ∃ failures, Stopped (outcome p words s.git) s.maxRetries failures ∧
      Repository.overNetwork p operation words ref s =
        (settled operation ref (outcome p words s.git failures.length),
          retried p operation words 0 failures s) := by
  obtain ⟨failures, stopped, run⟩ := attempts_run p operation words s.maxRetries 0 s
  refine ⟨failures, stopped, ?_⟩
  rw [Repository.overNetwork, bind_ok _ (get_run s), bind_ok _ run, settle_eq]

/-! ### Failures that may pass -/

/-- Of a command that is no checkout, a failure is worth another attempt only if it may pass. -/
theorem diagnose_recoverable {f : CommandFailure} {operation ref : String}
    (network : operation ≠ "checkout")
    (recoverable : (diagnose f operation ref).fault.recoverable = true) : f.isTransient = true := by
  rw [diagnose, if_neg network] at recoverable
  split at recoverable
  · cases recoverable
  · simpa only [GitFault.recoverable] using recoverable

/-- A failure that is worth another attempt and that git did not give as it is comes from a failure
that may pass. -/
theorem settled_recoverable {operation ref : String} {r : Except Failure String} {e : Raised}
    {g : GitFailure} (network : operation ≠ "checkout")
    (failed : settled operation ref r = .error e) (git : e.failure = .git g)
    (recoverable : g.fault.recoverable = true) (foreign : r ≠ .error (.git g)) :
    mayPass r = true := by
  rcases r with f | out
  · cases f with
    | command f =>
      cases failed
      cases git
      rw [Git.mayPass, isTransient]
      exact diagnose_recoverable network recoverable
    | git f =>
      cases failed
      cases git
      exact absurd rfl foreign
    | _ =>
      cases failed
      cases git
  · cases failed

/-- A failure that is worth another attempt comes up only after the last retry, and then all
outcomes were failures that may pass. A failure that git gives as it is does not count. -/
def LastResort {α : Type} (outcomes : Nat → Except Failure String) (maxRetries : Nat)
    (failures : List Failure) (result : Except Raised α) : Prop :=
  ∀ e g, result = .error e → e.failure = .git g → g.fault.recoverable = true →
    outcomes failures.length ≠ .error (.git g) →
    failures.length = maxRetries ∧ ∀ i ≤ maxRetries, mayPass (outcomes i) = true

/-- When attempts stop with a failure that may pass, then no retry is left. -/
theorem Stopped.lastResort {outcomes : Nat → Except Failure String} {maxRetries : Nat}
    {failures : List Failure} {operation ref : String} (network : operation ≠ "checkout")
    (stopped : Stopped outcomes maxRetries failures) :
    LastResort outcomes maxRetries failures
      (settled operation ref (outcomes failures.length)) := by
  intro e g failed git recoverable foreign
  have passes := settled_recoverable network failed git recoverable foreign
  have used := stopped.length_eq passes
  refine ⟨used, fun i within => ?_⟩
  rcases Nat.lt_or_eq_of_le (used ▸ within) with early | rfl
  · exact stopped.mayPass early
  · exact passes

/-! ### Pushes and look-ups -/

/-- An operation is a network command with retries, and goes on from its result if that is no
failure. -/
def RetriedTo {α : Type} (operation : String) (words : List String) (ref : String)
    (next : String → Job γ α) (s : Repository γ) (run : Except Raised α × Repository γ) : Prop :=
  ∃ failures, Retried (outcome p words s.git) s.maxRetries failures ∧
    (run = match settled operation ref (outcome p words s.git failures.length) with
      | .ok out => next out (retried p operation words 0 failures s)
      | .error e => (.error e, retried p operation words 0 failures s)) ∧
    LastResort (outcome p words s.git) s.maxRetries failures run.1

/-- A network command is tried again, whatever follows it, as long as that does not fail. -/
theorem overNetwork_retriedTo {α : Type} {operation : String} (words : List String) (ref : String)
    {next : String → Job γ α} (s : Repository γ) (network : operation ≠ "checkout")
    (total : ∀ out t, ∃ a, (next out t).1 = .ok a) :
    RetriedTo p operation words ref next s
      ((Repository.overNetwork p operation words ref >>= next) s) := by
  obtain ⟨failures, stopped, run⟩ := overNetwork_run p operation words ref s
  have lastResort : LastResort _ _ failures (settled operation ref _) := stopped.lastResort network
  refine ⟨failures, stopped.retried, ?_⟩
  rcases h : settled operation ref (outcome p words s.git failures.length) with e | out <;>
    rw [h] at run lastResort
  · rw [bind_error _ run]
    exact ⟨rfl, fun e' g failed => lastResort e' g (by rw [Except.error.inj failed])⟩
  · rw [bind_ok _ run]
    refine ⟨rfl, fun e' g failed => ?_⟩
    obtain ⟨a, succeeds⟩ := total out (retried p operation words 0 failures s)
    cases succeeds.symm.trans failed

/-- A push that succeeds is told, with the mode and the remote that it was made with. -/
def pushed (dryRun : Bool) (remote ref : String) (_ : String) : Job γ Unit :=
  Repository.tell ⟨"Push%s completed to %s/%s", .info, Repository.source,
    [.text (if dryRun then " (dry-run)" else ""), .text remote, .text ref], []⟩

/-- A listing that was printed is searched for the ref. -/
def searched (ref output : String) : Job γ Bool := pure (Repository.listingHas output ref)

/-- A push is a network command with retries. -/
theorem push_retriedTo (ref : String) (s : Repository γ) :
    RetriedTo p "push" (Repository.pushWords s.dryRun s.remote ref) ref
      (pushed s.dryRun s.remote ref) s (Repository.push p ref s) := by
  rw [Repository.push, bind_ok _ (get_run s)]
  exact overNetwork_retriedTo p _ ref s (by decide) fun _ _ => ⟨(), rfl⟩

/-- A look-up on a remote that is not refused is a network command with retries. -/
theorem hasRemoteRef_retriedTo (kind : Ref.Kind) (name : String) {s : Repository γ}
    (safe : danger? s.remote = none) :
    RetriedTo p "ls_remote" (listWords kind s.remote (kind.fullRef name)) (kind.fullRef name)
      (searched (kind.fullRef name)) s (Repository.hasRemoteRef p kind name s) := by
  rw [Repository.hasRemoteRef, bind_ok _ (checkRemote_safe safe), bind_ok _ (get_run s)]
  exact overNetwork_retriedTo p _ _ s (by decide) fun _ _ => ⟨_, rfl⟩

/-- A look-up on a remote that is refused fails before git is run. -/
theorem hasRemoteRef_refused (kind : Ref.Kind) (name : String) {s : Repository γ} {d : Danger}
    (danger : danger? s.remote = some d) :
    Repository.hasRemoteRef p kind name s = (.error (.plain (.dangerous d)), s) :=
  bind_error _ (checkRemote_danger danger)

/-- Pushes and look-ups on the remote are network commands with retries. The exception is a look-up
on a remote that is refused: it fails before git is run. -/
theorem network_commands_retried (s : Repository γ) :
    (∀ ref, RetriedTo p "push" (Repository.pushWords s.dryRun s.remote ref) ref
      (pushed s.dryRun s.remote ref) s (Repository.push p ref s)) ∧
    ∀ kind name,
      match danger? s.remote with
      | none => RetriedTo p "ls_remote" (listWords kind s.remote (kind.fullRef name))
          (kind.fullRef name) (searched (kind.fullRef name)) s
          (Repository.hasRemoteRef p kind name s)
      | some d => Repository.hasRemoteRef p kind name s = (.error (.plain (.dangerous d)), s) := by
  refine ⟨fun ref => push_retriedTo p ref s, fun kind name => ?_⟩
  split
  · next safe => exact hasRemoteRef_retriedTo p kind name safe
  · next d danger => exact hasRemoteRef_refused p kind name danger

end Repositories

/-- A repository that is bound to a remote that is refused, over a git that answers all commands. -/
def boundToHelper : Repository Script :=
  { Repository.unopened ⟨none, .ok [], fun _ => []⟩ Repository.usualTimeout with
      remote := "ext::x" }

/-- Git would list a remote that is refused at the first attempt, but it is not run for it. -/
theorem refused_remote_is_not_tried :
    outcome Script.program (listWords .branch "ext::x" "refs/heads/release-1.0") boundToHelper.git 0
        = .ok "" ∧
      ¬ RetriedTo Script.program "ls_remote"
        (listWords .branch "ext::x" "refs/heads/release-1.0") "refs/heads/release-1.0"
        (searched "refs/heads/release-1.0") boundToHelper
        (Repository.hasRemoteRef Script.program .branch "release-1.0" boundToHelper) := by
  refine ⟨rfl, ?_⟩
  rintro ⟨failures, -, run, -⟩
  have refused := hasRemoteRef_refused Script.program .branch "release-1.0" (s := boundToHelper)
    (d := .helper "ext::") rfl
  rw [refused] at run
  -- Whatever the last outcome comes to, the trace behind it has a run.
  split at run
  · cases congrArg (·.2.actions) run
  · cases congrArg (·.2.actions) run

end ReleaseRefs.Proofs.Git
