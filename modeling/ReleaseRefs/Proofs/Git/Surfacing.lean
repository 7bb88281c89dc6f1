import ReleaseRefs.Proofs.Git.Calls

/-!
# `ReleaseRefs.Proofs.Git.Surfacing`: how failures of git surface

An operation of the repository expects some failures of git. It turns them into failures of the
tool, with the failure of git as the cause. Any other failure of git leaves it as it is, and the
publisher passes it on. That goes for a git program that cannot be found: only the opening expects
it. `git_failures_surface` says which failure surfaces from which operation, and from a publisher.

- `Expected` lists the failures that are expected in a deed, and `Surfaces` says what becomes of a
  failure.
- `FromGit` says of a failed operation that its last deed failed and that this failure surfaced.
  `bind_fromGit` puts operations together, `overNetwork_fromGit` has the retries, and
  `perform_fromGit` goes through the operations.
- `Escapes` says of a publisher's failure that it is one that git gave and nobody expected
  (`create_surfaces`, `publish_surfaces`).
-/

set_option autoImplicit false

namespace ReleaseRefs.Proofs.Git

open ReleaseRefs.Git ReleaseRefs.Proofs.Publish
open ReleaseRefs.Publish (Call Session)
open ReleaseRefs.Publish.Publisher

/-! ### What is expected -/

/-- The failure that git gave in a deed. -/
def Deed.failure? : Deed → Option Failure
  | .opened _ (.error f) => some f
  | .looked (.error f) => some f
  | .ran _ _ (.error f) => some f
  | _ => none

/-- The failures that are expected in a deed. Only the opening expects that git is missing, and it
expects no command that fails. -/
inductive Expected : Deed → Failure → Prop where
  | missing {path : Path} {r : Except Failure Unit} (f : CommandFailure) :
      Expected (.opened path r) (.programMissing f)
  | notRepository {path : Path} {r : Except Failure Unit} (message : String) :
      Expected (.opened path r) (.notRepository message)
  | noSuchPath {path : Path} {r : Except Failure Unit} (message : String) :
      Expected (.opened path r) (.noSuchPath message)
  | branches {r : Except Failure (List String)} {f : Failure}
      (known : f.isSystem = true ∨ f.isUnfitValue = true) : Expected (.looked r) f
  | branchesCommand {r : Except Failure (List String)} (f : CommandFailure) :
      Expected (.looked r) (.command f)
  | command {words : List String} {timeout : Option Value} {r : Except Failure String}
      (f : CommandFailure) : Expected (.ran words timeout r) (.command f)

/-- The failure that says that git is missing. -/
def missingGit : GitFailure := ⟨.missingProgram, "Git CLI not found. Please install git."⟩

/-- What becomes of a failure of git: a failure of the tool if it is expected, and that git is
missing if it is. Otherwise it stays as it is. -/
inductive Surfaces (x : Deed) (f : Failure) : Raised → Prop where
  | told {g : GitFailure} (expected : Expected x f)
      (missing : ∀ c, f = .programMissing c → g = missingGit) : Surfaces x f (.fromCause (.git g) f)
  | bare (unexpected : ¬ Expected x f) : Surfaces x f (.plain f)

/-- The failure is one of the tool, and none from below it. -/
def IsOwn : Failure → Prop
  | .general _ => True
  | .publish _ => True
  | .git _ => True
  | .config _ => True
  | _ => False

section Repositories

variable {γ : Type} (p : Program γ)

/-- A failure between two states of a repository is the one of the last deed, as it surfaces. -/
def FromGit (s t : Repository γ) (e : Raised) : Prop :=
  ∃ xs x f, Traced p s (xs ++ [x]) t ∧ x.failure? = some f ∧ Surfaces x f e

/-- A failure between two states of a repository is one that git gave and nobody expected. -/
def Escapes (s t : Repository γ) (e : Raised) : Prop :=
  ∃ xs x f, Traced p s xs t ∧ x ∈ xs ∧ x.failure? = some f ∧ ¬ Expected x f ∧ e = .plain f

/-- The calls that a repository refuses before it asks git. -/
inductive Refused (s : Repository γ) : Call → Raised → Prop where
  | remote (kind : Ref.Kind) (name : String) {d : Danger} (danger : danger? s.remote = some d) :
      Refused s (remoteCall name kind) (.plain (.dangerous d))
  | retries {n : Int} (negative : n < 0) :
      Refused s (.setMaxRetries n)
        (.plain (.fault .value ("max_retries must be >= 0, got " ++ toString n)))

/-! ### Operations -/

section Operations

variable {p} {s u : Repository γ} {α β : Type}

/-- After a computation whose failures come from git, another one that does not fail. -/
theorem bind_fromGit {w : Job γ α} {k : α → Job γ β} {e : Raised}
    (first : ∀ e t, w s = (.error e, t) → FromGit p u t e)
    (total : ∀ a t, ∃ b, (k a t).1 = .ok b)
    (failed : ((w >>= k) s).1 = .error e) : FromGit p u ((w >>= k) s).2 e := by
  rcases hw : w s with ⟨e' | a, t⟩
  · rw [bind_error _ hw] at failed ⊢
    cases failed
    exact first _ _ hw
  · rw [bind_ok _ hw] at failed
    obtain ⟨b, succeeds⟩ := total a t
    cases succeeds.symm.trans failed

/-- A command that failed is settled with what surfaces of its failure. -/
theorem settle_surfaces {operation ref : String} {words : List String} {timeout : Option Value}
    {f : Failure} {e : Raised} {t : Repository γ}
    (settled : Repository.settle operation ref (.error f) s = (.error e, t)) :
    t = s ∧ Surfaces (.ran words timeout (.error f)) f e := by
  cases f with
  | command c =>
    cases settled
    exact ⟨rfl, .told (.command c) nofun⟩
  | _ =>
    cases settled
    exact ⟨rfl, .bare nofun⟩

/-- A command that is run once, settled and used fails as git fails. -/
theorem command_fromGit {operation ref : String} {words : List String} {k : String → Job γ α}
    {e : Raised} (total : ∀ out t, ∃ b, (k out t).1 = .ok b)
    (failed : ((Repository.run p words none >>= fun r =>
      Repository.settle operation ref r >>= k) s).1 = .error e) :
    FromGit p s ((Repository.run p words none >>= fun r =>
      Repository.settle operation ref r >>= k) s).2 e := by
  have did := (ran_did p words none s).toTraced
  rw [bind_ok _ (run_run p words none s)] at failed ⊢
  refine bind_fromGit (fun e t settled => ?_) total failed
  cases h : (p.run words s.git).1 with
  | ok out => rw [h] at settled; cases settled
  | error f =>
    rw [h] at settled did
    obtain ⟨rfl, surfaces⟩ := settle_surfaces settled
    exact ⟨[], _, f, did, rfl, surfaces⟩

/-- The last deed of a command that is tried has its result. -/
theorem Tries.last_deed {words : List String} {timeout : Value} {count : Nat} {xs : List Deed}
    {r : Except Failure String} (tries : Tries words timeout count xs r) :
    ∃ ys, xs = ys ++ [.ran words (some timeout) r] := by
  induction tries with
  | last r => exact ⟨[], rfl⟩
  | again _ _ ih =>
    obtain ⟨ys, rfl⟩ := ih
    exact ⟨_ :: _ :: ys, rfl⟩

/-- A network command fails as git fails in the last try. -/
theorem overNetwork_fromGit {operation ref : String} {words : List String} {e : Raised}
    {t : Repository γ} (failed : Repository.overNetwork p operation words ref s = (.error e, t)) :
    FromGit p s t e := by
  obtain ⟨count, xs, r, -, tries, did, result⟩ :=
    attempts_tries p s operation words s.maxRetries 1
  have tried : Repository.attempts p operation words s.maxRetries 1 s
      = (.ok r, (Repository.attempts p operation words s.maxRetries 1 s).2) :=
    Prod.ext result rfl
  rw [Repository.overNetwork, bind_ok _ (get_run s), bind_ok _ tried] at failed
  cases r with
  | ok out => cases failed
  | error f =>
    obtain ⟨ys, rfl⟩ := tries.last_deed
    obtain ⟨rfl, surfaces⟩ := settle_surfaces failed
    exact ⟨ys, _, f, did.toTraced, rfl, surfaces⟩

/-- What surfaces of a failure to open a place. -/
theorem openFailure_surfaces {path : Path} {r : Except Failure Unit} (place : Place)
    (shown : String) (f : Failure) :
    Surfaces (.opened path r) f (Repository.openFailure place shown f) := by
  cases f with
  | programMissing c => exact .told (.missing c) fun _ _ => rfl
  | notRepository m => exact .told (.notRepository m) nofun
  | noSuchPath m => exact .told (.noSuchPath m) nofun
  | _ => exact .bare nofun

/-- What surfaces of a failure to list the branches. -/
theorem branchFailure_surfaces {r : Except Failure (List String)} (f : Failure) :
    Surfaces (.looked r) f (Repository.branchFailure f) := by
  unfold Repository.branchFailure
  split
  · next c => exact .told (.branchesCommand c) nofun
  · next noCommand =>
    -- Besides commands that fail, the errors of the system and of unfit values are expected.
    split
    · next known =>
      rw [Bool.or_eq_true] at known
      refine .told (.branches known) ?_
      rintro c rfl
      simp [Failure.isSystem, Failure.isUnfitValue] at known
    · next unknown =>
      refine .bare fun expected => ?_
      cases expected with
      | branches known => exact unknown (by rwa [Bool.or_eq_true])
      | branchesCommand c => exact noCommand c rfl

variable (p)

/-- The place only says which path is opened and how a failure shows it. -/
theorem openAt_run (place : Place) (remote : String) (s : Repository γ) :
    ∃ path shown, Repository.openAt p place remote s =
      ((p.opens path s.git).1.mapError (Repository.openFailure place shown),
        { s with
          git := (p.opens path s.git).2, remote, actions := s.actions ++ [.opened path] }) := by
  unfold Repository.openAt Except.mapError
  cases place with
  | named t =>
    refine ⟨Path.ofText t, t, ?_⟩
    cases h : (p.opens (Path.ofText t) s.git).1 <;> simp only [h]
  | located q =>
    refine ⟨q, q.text, ?_⟩
    cases h : (p.opens q s.git).1 <;> simp only [h]

/-- Opening a place fails as git fails. -/
theorem openAt_fromGit {place : Place} {remote : String} {e : Raised}
    (failed : (Repository.openAt p place remote s).1 = .error e) :
    FromGit p s (Repository.openAt p place remote s).2 e := by
  obtain ⟨path, shown, opened⟩ := openAt_run p place remote s
  rw [opened] at failed ⊢
  have told : Told p s.git [.opened path (p.opens path s.git).1] (p.opens path s.git).2 :=
    .cons (.opened path) (.nil _)
  cases h : (p.opens path s.git).1 with
  | ok _ => rw [h] at failed; cases failed
  | error f =>
    rw [h] at failed told
    obtain rfl := Except.error.inj failed
    exact ⟨[], _, f, ⟨told, rfl⟩, rfl, openFailure_surfaces place shown f⟩

/-- Switching to a branch fails as git fails. -/
theorem checkout_fromGit {branch : String} {e : Raised}
    (failed : (Repository.checkout p branch s).1 = .error e) :
    FromGit p s (Repository.checkout p branch s).2 e :=
  command_fromGit (fun _ _ => ⟨_, rfl⟩) failed

/-- Listing the tags of a branch fails as git fails. -/
theorem tagsOnBranch_fromGit {branch : String} {e : Raised}
    (failed : (Repository.tagsOnBranch p branch s).1 = .error e) :
    FromGit p s (Repository.tagsOnBranch p branch s).2 e :=
  command_fromGit (fun _ _ => ⟨_, rfl⟩) failed

/-- Looking for a branch fails as git fails. -/
theorem hasLocalBranch_fromGit {name : String} {e : Raised}
    (failed : (Repository.hasLocalBranch p name s).1 = .error e) :
    FromGit p s (Repository.hasLocalBranch p name s).2 e := by
  have did := (hasLocalBranch_did p s name).1.toTraced
  cases h : (p.branches s.git).1 with
  | ok names => simp [Repository.hasLocalBranch, h] at failed
  | error f =>
    simp only [Repository.hasLocalBranch, h, Except.error.injEq] at failed
    rw [h] at did
    exact ⟨[], _, f, did, rfl, failed ▸ branchFailure_surfaces f⟩

/-- Asking the remote fails as git fails, unless the remote is refused. -/
theorem hasRemoteRef_fromGit {kind : Ref.Kind} {name : String} {e : Raised}
    (failed : (Repository.hasRemoteRef p kind name s).1 = .error e) :
    FromGit p s (Repository.hasRemoteRef p kind name s).2 e ∨
      Refused s (remoteCall name kind) e := by
  unfold Repository.hasRemoteRef at failed ⊢
  cases safe : danger? s.remote with
  | some d =>
    rw [bind_error _ (checkRemote_danger safe)] at failed
    obtain rfl := Except.error.inj failed
    exact .inr (.remote kind name safe)
  | none =>
    rw [bind_ok _ (checkRemote_safe safe), bind_ok _ (get_run s)] at failed ⊢
    exact .inl (bind_fromGit (fun _ _ => overNetwork_fromGit) (fun _ _ => ⟨_, rfl⟩) failed)

/-- A push fails as git fails. -/
theorem push_fromGit {ref : String} {e : Raised}
    (failed : (Repository.push p ref s).1 = .error e) :
    FromGit p s (Repository.push p ref s).2 e := by
  rw [Repository.push, bind_ok _ (get_run s)] at failed ⊢
  exact bind_fromGit (fun _ _ => overNetwork_fromGit) (fun _ _ => ⟨_, rfl⟩) failed

/-- Every operation fails as git fails, unless it is refused. -/
theorem perform_fromGit {c : Call} {e : Raised}
    (failed : (Repository.perform p c s).1 = .error e) :
    FromGit p s (Repository.perform p c s).2 e ∨ Refused s c e := by
  cases c with
  | checkout => exact .inl (checkout_fromGit p failed)
  | setDryRun => cases failed
  | setMaxRetries n =>
    simp only [Repository.perform, Repository.setMaxRetries] at failed
    split at failed
    · next negative =>
      obtain rfl := Except.error.inj failed
      exact .inr (.retries negative)
    · cases failed
  | hasLocalBranch => exact .inl (hasLocalBranch_fromGit p failed)
  | hasRemoteBranch name => exact hasRemoteRef_fromGit p failed
  | tagsOnBranch => exact .inl (tagsOnBranch_fromGit p failed)
  | hasRemoteTag name => exact hasRemoteRef_fromGit p failed
  | push => exact .inl (push_fromGit p failed)
  | close => cases failed

/-- The publisher's calls fail as the operations do. -/
theorem answer_fromGit {c : Call} {e : Raised}
    (failed : ((Repository.handle p).answer c s).result = .error e) :
    FromGit p s ((Repository.handle p).answer c s).state e ∨ Refused s c e := by
  rcases perform_fromGit p (s := { s with events := [] }) failed with fromGit | refused
  · obtain ⟨xs, x, f, traced, fails, surfaces⟩ := fromGit
    exact .inl ⟨xs, x, f, ⟨traced.told, traced.actions⟩, fails, surfaces⟩
  · refine .inr ?_
    cases refused with
    | remote kind name danger => exact .remote kind name danger
    | retries negative => exact .retries negative

end Operations

/-! ### The publisher -/

section Publisher

variable {p} {s t u : Repository γ} {xs : List Deed} {e : Raised}

/-- A failure that escapes later. -/
theorem Escapes.after (first : Traced p s xs t) (escapes : Escapes p t u e) : Escapes p s u e := by
  obtain ⟨ys, x, f, traced, member, rest⟩ := escapes
  exact ⟨xs ++ ys, x, f, first.append traced, List.mem_append_right _ member, rest⟩

/-- A failure that escaped before. -/
theorem Escapes.before (escapes : Escapes p s t e) (last : Traced p t xs u) : Escapes p s u e := by
  obtain ⟨ys, x, f, traced, member, rest⟩ := escapes
  exact ⟨ys ++ xs, x, f, traced.append last, List.mem_append_left _ member, rest⟩

/-- A function rewords failures of the repository only, into failures of the tool. -/
def Rewords (reword : Raised → Raised) : Prop := ∀ r, reword r = r ∨ IsOwn (reword r).failure

/-- What becomes of failures on their way up is a rewording. -/
theorem Rewords.of_comesUp {reword : Raised → Raised} {own : GitFault → Prop}
    {named : String → Failure} (comesUp : ∀ r, ComesUp own named r (reword r))
    (isOwn : ∀ m, IsOwn (named m)) : Rewords reword := by
  intro r
  have up := comesUp r
  generalize reword r = r' at up
  cases up with
  | own => exact .inl rfl
  | named => exact .inr (isOwn _)
  | foreign => exact .inl rfl

/-- What surfaced from git is one of the tool's own failures once it is reworded, or it escapes. -/
theorem FromGit.reworded {reword : Raised → Raised} (rewords : Rewords reword)
    (fromGit : FromGit p s t e) : IsOwn (reword e).failure ∨ Escapes p s t (reword e) := by
  obtain ⟨xs, x, f, traced, fails, surfaces⟩ := fromGit
  rcases rewords e with same | own
  · rw [same]
    cases surfaces with
    | told => exact .inl trivial
    | bare unexpected => exact .inr ⟨_, x, f, traced, by simp, fails, unexpected, rfl⟩
  · exact .inl own

/-- Only look-ups on the remote and the number of retries are refused. -/
theorem Refused.method {c : Call} (refused : Refused s c e) :
    c.method ∈ [.hasRemoteBranch, .hasRemoteTag, .setMaxRetries] := by
  cases refused with
  | remote kind => cases kind <;> simp [remoteCall, Call.method]
  | retries => simp [Call.method]

/-- A look-up on the remote is refused for the remote. -/
theorem Refused.danger {kind : Ref.Kind} {name : String}
    (refused : Refused s (remoteCall name kind) e) :
    ∃ d, danger? s.remote = some d ∧ e = .plain (.dangerous d) := by
  generalize asked : remoteCall name kind = c at refused
  cases refused with
  | remote _ _ danger => exact ⟨_, danger, rfl⟩
  | retries => cases kind <;> cases asked

variable (p)

/-- A call that is not refused fails with a failure of the tool once it is reworded, or the failure
escapes. -/
theorem call_surfaces {c : Call} {reword : Raised → Raised} (rewords : Rewords reword)
    (failed : ((Repository.handle p).answer c s).result = .error e)
    (quiet : c.method ∉ [.hasRemoteBranch, .hasRemoteTag, .setMaxRetries]) :
    IsOwn (reword e).failure ∨
      Escapes p s ((Repository.handle p).answer c s).state (reword e) := by
  rcases answer_fromGit p failed with fromGit | refused
  · exact fromGit.reworded rewords
  · exact absurd refused.method quiet

theorem openFailure_rewords (config : Config) : Rewords (openFailure config) :=
  .of_comesUp (openFailure_comesUp config) fun _ => trivial

theorem checkoutFailure_rewords (config : Config) : Rewords (checkoutFailure config) :=
  .of_comesUp (checkoutFailure_comesUp config) fun _ => trivial

theorem localFailure_rewords (config : Config) (kind : Ref.Kind) (name : String) :
    Rewords (localFailure config kind name) :=
  .of_comesUp (localFailure_comesUp config kind name) fun _ => trivial

theorem remoteFailure_rewords (config : Config) (kind : Ref.Kind) (name : String) :
    Rewords (remoteFailure config kind name) :=
  .of_comesUp (remoteFailure_comesUp config kind name) fun _ => trivial

theorem pushFailure_rewords (kind : Ref.Kind) (name : String) :
    Rewords (pushFailure kind name) :=
  .of_comesUp (pushFailure_comesUp kind name) fun _ => trivial

/-- Opening and preparing a repository fails with a failure of the tool, or with one that escapes
from the opening or the checkout. -/
theorem create_surfaces {config : Config} {s : Session (Repository γ)}
    (retries : 0 ≤ config.maxRetries) (there : s.released = false)
    (failed : (create (Repository.handle p) config s).1 = .error e) :
    IsOwn e.failure ∨ Escapes p s.state (create (Repository.handle p) config s).2.state e := by
  obtain ⟨o, opening, -⟩ := openAt_traced p s.state config.repoPath config.remote
  rcases hc : create (Repository.handle p) config s with ⟨r, t⟩
  have created := hc ▸ create_created (Repository.handle p) config s
  rw [hc] at failed
  cases created with
  | ready => cases failed
  | unopened refused =>
    obtain rfl := Except.error.inj failed
    exact (openAt_fromGit p refused).reworded (openFailure_rewords config)
  | @unprepared e' u _ prepared =>
    -- The repository is given back before the failure is passed on, which fails nowhere.
    obtain ⟨c, -, held, -⟩ := prepared_traced p retries rfl prepared
    obtain ⟨closed, closes⟩ := close_traced p (held.trans there)
    simp only [closes, Except.error.injEq] at failed
    subst failed
    cases prepared with
    | checkoutFailed refused =>
      refine (call_surfaces p (checkoutFailure_rewords config) refused (by simp [Call.method])).imp
        id fun escapes => ?_
      exact (Escapes.after opening escapes).before closed.toTraced
    | dryRunFailed _ refused => cases refused
    | retriesFailed _ _ refused =>
      rw [answer_setMaxRetries_eq p _ retries] at refused
      cases refused

/-- Publishing a ref fails with a failure of the tool, or with one that escapes from a call, or for
a remote that is refused. -/
theorem publish_surfaces {config : Config} {kind : Ref.Kind} {name : String}
    {s : Session (Repository γ)}
    (failed : (publish (Repository.handle p) config kind name s).1 = .error e) :
    IsOwn e.failure ∨
      Escapes p s.state (publish (Repository.handle p) config kind name s).2.state e ∨
      ∃ d, danger? s.state.remote = some d ∧ e = .plain (.dangerous d) := by
  -- The deeds of the look-ups come before those of the call that fails.
  obtain ⟨x, -, looked, -⟩ := answer_local_did p s.state config kind name
  have looked : Did p s.state [x] (afterLocal (Repository.handle p) config kind name s).state :=
    looked
  obtain ⟨xs, asked⟩ : ∃ xs, Did p (afterLocal (Repository.handle p) config kind name s).state xs
      (afterRemote (Repository.handle p) config kind name s).state := by
    rcases answer_remote_tries p (afterLocal (Repository.handle p) config kind name s).state kind
      name with ⟨_, _, -, -, did⟩ | ⟨_, xs, _, -, -, did, -⟩
    · exact ⟨[], did⟩
    · exact ⟨xs, did⟩
  rcases hp : publish (Repository.handle p) config kind name s with ⟨r, t⟩
  have published := hp ▸ publish_published (Repository.handle p) config kind name s
  rw [hp] at failed
  cases published with
  | refused bad =>
    obtain rfl := Except.error.inj failed
    obtain ⟨_, _, about⟩ := Ref.check_error bad
    exact .inl (about ▸ trivial)
  | closed =>
    obtain rfl := Except.error.inj failed
    exact .inl trivial
  | missing =>
    obtain rfl := Except.error.inj failed
    exact .inl trivial
  | present => cases failed
  | pushed => cases failed
  | localFailed _ _ refused =>
    obtain rfl := Except.error.inj failed
    refine (call_surfaces p (localFailure_rewords config kind name) refused ?_).imp id .inl
    cases kind <;> simp [localCall, Call.method]
  | remoteFailed _ _ _ refused =>
    obtain rfl := Except.error.inj failed
    rcases answer_fromGit p refused with fromGit | refused
    · refine (fromGit.reworded (remoteFailure_rewords config kind name)).imp id fun escapes => ?_
      exact .inl (escapes.after looked.toTraced)
    · obtain ⟨d, danger, rfl⟩ := refused.danger
      exact .inr (.inr ⟨d, looked.remote ▸ danger, rfl⟩)
  | pushFailed _ _ _ _ refused =>
    obtain rfl := Except.error.inj failed
    refine (call_surfaces p (pushFailure_rewords kind name) refused
      (by simp [Call.method])).imp id fun escapes => ?_
    exact .inl (escapes.after (looked.append asked).toTraced)

end Publisher

end Repositories

/-- Which failures surface from the repository and from a publisher over it, for every git program.

- Opening a place, and every operation that is not refused, fails with the failure that git gave in
  the last deed. If the deed expects it, then it has become a failure of the repository with that
  one as its cause, which says that git is missing if it is. If not, then it leaves the operation as
  it is. So a command that fails is told as a failure of the repository everywhere but at the
  opening, and a git program that is missing is told at the opening only.
- A publisher that cannot be created, and a ref that cannot be published, fail with a failure of the
  tool, unless git gave a failure that is not expected, which then surfaces as it is, or the remote
  is refused. -/
theorem git_failures_surface {γ : Type} (p : Program γ) :
    (∀ place remote s e, (Repository.openAt p place remote s).1 = .error e →
      FromGit p s (Repository.openAt p place remote s).2 e) ∧
    (∀ c s e, (Repository.perform p c s).1 = .error e →
      FromGit p s (Repository.perform p c s).2 e ∨ Refused s c e) ∧
    (∀ config (state : Repository γ) e, 0 ≤ config.maxRetries →
      (create (Repository.handle p) config (.start state)).1 = .error e →
      IsOwn e.failure ∨
        Escapes p state (create (Repository.handle p) config (.start state)).2.state e) ∧
    ∀ config kind name (s : Session (Repository γ)) e,
      (publish (Repository.handle p) config kind name s).1 = .error e →
      IsOwn e.failure ∨
        Escapes p s.state (publish (Repository.handle p) config kind name s).2.state e ∨
        ∃ d, danger? s.state.remote = some d ∧ e = .plain (.dangerous d) :=
  ⟨fun _ _ _ _ => openAt_fromGit p, fun _ _ _ => perform_fromGit p,
    fun _ _ _ retries => create_surfaces p retries rfl, fun _ _ _ _ _ => publish_surfaces p⟩

/-- A git program that is gone once a place is open. -/
def vanished : Program Unit := { absent with opens := fun _ g => (.ok (), g) }

/-- A repository that was not opened yet. -/
def shut : Repository Unit := .unopened () Repository.usualTimeout

/-- The options of a rehearsal in the current place. -/
def rehearsalHere : Config := ⟨true, 3, ⟨"."⟩, "master", "origin", "v"⟩

/-- A git program that is missing is told as such when a repository is opened. If it goes missing
later, then its failure surfaces as it is: from the checkout, from a publisher that is created, and
from a ref that is published. -/
theorem missing_program_escapes :
    (let opening := Repository.openAt absent (.named ".") "origin" shut
    opening.1 = .error (.fromCause (.git missingGit) (notFound [])) ∧
      FromGit absent shut opening.2 (.fromCause (.git missingGit) (notFound []))) ∧
    (let switching := Repository.checkout vanished "master" shut
    switching.1 = .error (.plain (notFound ["checkout", "master"])) ∧
      FromGit vanished shut switching.2 (.plain (notFound ["checkout", "master"]))) ∧
    (let creating := create (Repository.handle vanished) rehearsalHere (.start shut)
    creating.1 = .error (.plain (notFound ["checkout", "master"])) ∧
      Escapes vanished shut creating.2.state (.plain (notFound ["checkout", "master"]))) ∧
    (let publishing := publish (Repository.handle vanished) rehearsalHere .branch "release-1.0"
      (.start shut)
    publishing.1 = .error (.plain (notFound ["for-each-ref"])) ∧
      Escapes vanished shut publishing.2.state (.plain (notFound ["for-each-ref"]))) := by
  refine ⟨⟨rfl, ?_⟩, ⟨rfl, ?_⟩, ⟨rfl, ?_⟩, ⟨rfl, ?_⟩⟩
  · exact (git_failures_surface absent).1 (.named ".") "origin" _ _ rfl
  · rcases (git_failures_surface vanished).2.1 (.checkout "master") shut _ rfl
      with fromGit | refused
    · exact fromGit
    · exact absurd refused.method (by simp [Call.method])
  · have created := (git_failures_surface vanished).2.2.1 rehearsalHere shut _ (by decide) rfl
    exact created.resolve_left id
  · rcases (git_failures_surface vanished).2.2.2 rehearsalHere .branch "release-1.0" (.start shut)
      (.plain (notFound ["for-each-ref"])) rfl with own | escapes | ⟨d, danger, -⟩
    · exact own.elim
    · exact escapes
    · cases danger

end ReleaseRefs.Proofs.Git
