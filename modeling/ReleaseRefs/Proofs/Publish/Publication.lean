import ReleaseRefs.Proofs.Run

/-!
# `ReleaseRefs.Proofs.Publish.Publication`: what opening a repository and publishing a ref come to

The publisher is a chain of calls on a handle, each of which may fail. This module says once what
the chains can do, for every handle, and later modules cite it instead of running the chains again.

- `ComesUp` says what becomes of a failure on its way up, and `openFailure_comesUp` to
  `pushFailure_comesUp` say it of the calls of the publisher.
- `Prepared` lists the ends of the preparation of an opened repository (`prepare_prepared`), and
  `Created` those of opening and preparing one (`create_created`).
- `Published` lists the eight ends of publishing a ref, each with its result and with the session
  behind it (`publish_published`): a name that is refused, a repository that was given back, a
  failed local look-up, a ref that is missing, a failed remote look-up, a ref that the remote has, a
  failed push, and a push.

The two kinds of ref ask different calls in the same order. `localCall` and `remoteCall` are those
calls, and `isFound` and `isPresent` read their answers.
-/

set_option autoImplicit false

namespace ReleaseRefs.Proofs.Publish

open ReleaseRefs.Publish ReleaseRefs.Publish.Publisher

variable {σ : Type}

/-! ### Sessions after one call or one event -/

/-- The session after a call. -/
def asked (h : Handle σ) (c : Call) (s : Session σ) : Session σ := (Work.call h c s).2

/-- The session after an event was told. -/
def told (e : Log.Event) (s : Session σ) : Session σ := (Work.tell e s).2

/-- A call gives what the handle answers. -/
theorem call_run (h : Handle σ) (c : Call) (s : Session σ) :
    Work.call h c s = ((h.answer c s.state).result, asked h c s) := rfl

/-- To tell an event never fails. -/
theorem tell_run (e : Log.Event) (s : Session σ) : Work.tell e s = (.ok (), told e s) := rfl

@[simp] theorem asked_exchanges (h : Handle σ) (c : Call) (s : Session σ) :
    (asked h c s).exchanges = s.exchanges ++ [⟨c, (h.answer c s.state).result⟩] := rfl

@[simp] theorem asked_released (h : Handle σ) (c : Call) (s : Session σ) :
    (asked h c s).released = s.released := rfl

@[simp] theorem asked_state (h : Handle σ) (c : Call) (s : Session σ) :
    (asked h c s).state = (h.answer c s.state).state := rfl

@[simp] theorem told_exchanges (e : Log.Event) (s : Session σ) :
    (told e s).exchanges = s.exchanges := rfl

@[simp] theorem told_state (e : Log.Event) (s : Session σ) : (told e s).state = s.state := rfl

/-! ### Failures on their way up -/

/-- What becomes of a failure on its way up. A failure of the repository gets a new name. It stands
at the end of the new message, and it is the cause. Not so if it has a name of its own, or if it is
no failure of the repository: then it stays as it is. -/
inductive ComesUp (own : GitFault → Prop) (named : String → Failure) (e : Raised) :
    Raised → Prop where
  | own {g : GitFailure} (git : e.failure = .git g) (known : own g.fault) : ComesUp own named e e
  | named {g : GitFailure} (git : e.failure = .git g) (unknown : ¬ own g.fault) (front : String) :
      ComesUp own named e (.fromCause (named (front ++ g.message)) e.failure)
  | foreign (foreign : ∀ g, e.failure ≠ .git g) : ComesUp own named e e

/-- The fault of a repository that cannot be opened. -/
def IsOpening (fault : GitFault) : Prop := ∃ place, fault = .opening place

/-- The fault of a branch that cannot be checked out. -/
def IsCheckout (fault : GitFault) : Prop :=
  ∃ branch recoverable, fault = .checkout branch recoverable

/-- No fault has a name of its own. -/
def NoFault (_ : GitFault) : Prop := False

/-- A failure is reworded if it is one of the repository that has no name of its own. -/
theorem rewordGit_comesUp {own : GitFault → Prop} {named : String → Failure} {e : Raised}
    (unknown : ∀ g, e.failure = .git g → ¬ own g.fault) (front : String) :
    ComesUp own named e (rewordGit (fun g => named (front ++ g.message)) e) := by
  unfold rewordGit
  split
  · next g git => exact .named git (unknown g git) front
  · next foreign => exact .foreign foreign

/-- What becomes of a failure to open the repository. -/
theorem openFailure_comesUp (config : Config) (e : Raised) :
    ComesUp IsOpening (fun m => .git ⟨.opening (some (.located config.repoPath)), m⟩) e
      (openFailure config e) := by
  unfold openFailure
  split
  · next place m git => exact .own git ⟨place, rfl⟩
  · next other =>
    refine rewordGit_comesUp ?_ ("While opening repository " ++ config.repoPath.text ++ ": ")
    rintro ⟨_, m⟩ git ⟨place, rfl⟩
    exact other place m git

/-- What becomes of a failure of the first checkout. -/
theorem checkoutFailure_comesUp (config : Config) (e : Raised) :
    ComesUp IsCheckout (fun m => .git ⟨.checkout (some config.defaultBranch) false, m⟩) e
      (checkoutFailure config e) := by
  unfold checkoutFailure
  split
  · next branch recoverable m git => exact .own git ⟨branch, recoverable, rfl⟩
  · next other =>
    refine rewordGit_comesUp ?_ ("Checking out " ++ config.defaultBranch ++ " branch: ")
    rintro ⟨_, m⟩ git ⟨branch, recoverable, rfl⟩
    exact other branch recoverable m git

/-- What becomes of a failure to query the local repository. -/
theorem localFailure_comesUp (config : Config) (kind : Ref.Kind) (name : String) (e : Raised) :
    ComesUp NoFault (fun m => .publish ⟨.localLookup, m, some name⟩) e
      (localFailure config kind name e) := by
  cases kind with
  | branch =>
    exact rewordGit_comesUp (fun _ _ => id) ("Checking if branch " ++ name ++ " exists locally: ")
  | tag => exact rewordGit_comesUp (fun _ _ => id) ("Listing tags on branch " ++ _ ++ ": ")

/-- What becomes of a failure to query the remote. -/
theorem remoteFailure_comesUp (config : Config) (kind : Ref.Kind) (name : String) (e : Raised) :
    ComesUp NoFault (fun m => .publish ⟨.remoteLookup, m, some name⟩) e
      (remoteFailure config kind name e) :=
  rewordGit_comesUp (fun _ _ => id)
    ("Checking if " ++ kind.word ++ " " ++ name ++ " exists in remote " ++ config.remote ++ ": ")

/-- What becomes of a failure to push. -/
theorem pushFailure_comesUp (kind : Ref.Kind) (name : String) (e : Raised) :
    ComesUp NoFault (fun m => .publish ⟨.push, m, some name⟩) e (pushFailure kind name e) :=
  rewordGit_comesUp (fun _ _ => id) ("Pushing " ++ kind.word ++ " " ++ name ++ ": ")

/-! ### Giving the repository back -/

/-- The session in which the repository counts as given back. -/
def released (s : Session σ) : Session σ := { s with released := true }

/-- To give the repository back is a call, unless it was given back before. -/
theorem close_run (h : Handle σ) (s : Session σ) :
    close h s =
      if s.released then (.ok (), s)
      else ((h.answer .close s.state).result, asked h .close (released s)) := rfl

/-- What is closed with a computation ends in the session after the repository was given back. -/
theorem closing_snd {α : Type} (h : Handle σ) (w : Work σ α) (s : Session σ) :
    (closing h w s).2 = (close h (w s).2).2 := by
  unfold closing
  rcases hc : close h (w s).2 with ⟨_ | _, _⟩ <;> simp only [hc]

/-! ### Opening -/

/-- The session after the first checkout. -/
def checkedOut (h : Handle σ) (config : Config) (s : Session σ) : Session σ :=
  asked h (.checkout config.defaultBranch) (told (checkoutEvent config) s)

/-- The session in which a run that only simulates was announced. -/
def announced (h : Handle σ) (config : Config) (s : Session σ) : Session σ :=
  if config.dryRun then told dryRunEvent (checkedOut h config s) else checkedOut h config s

/-- The session after the repository was told whether pushes are simulated. -/
def dryRunSet (h : Handle σ) (config : Config) (s : Session σ) : Session σ :=
  asked h (.setDryRun config.dryRun) (announced h config s)

/-- The session after the repository was told the number of retries. -/
def retriesSet (h : Handle σ) (config : Config) (s : Session σ) : Session σ :=
  asked h (.setMaxRetries config.maxRetries) (dryRunSet h config s)

@[simp] theorem announced_exchanges (h : Handle σ) (config : Config) (s : Session σ) :
    (announced h config s).exchanges = (checkedOut h config s).exchanges := by
  unfold announced
  split <;> rfl

@[simp] theorem announced_released (h : Handle σ) (config : Config) (s : Session σ) :
    (announced h config s).released = (checkedOut h config s).released := by
  unfold announced
  split <;> rfl

@[simp] theorem announced_state (h : Handle σ) (config : Config) (s : Session σ) :
    (announced h config s).state = (checkedOut h config s).state := by
  unfold announced
  split <;> rfl

theorem dryRunSet_released (h : Handle σ) (config : Config) (s : Session σ) :
    (dryRunSet h config s).released = s.released := by
  rw [dryRunSet, asked_released, announced_released]
  rfl

/-- A preparation does not give the repository back. -/
theorem retriesSet_released (h : Handle σ) (config : Config) (s : Session σ) :
    (retriesSet h config s).released = s.released :=
  dryRunSet_released h config s

/-- The second call of a preparation is made behind the first. -/
theorem dryRunSet_exchanges (h : Handle σ) (config : Config) (s : Session σ) :
    (dryRunSet h config s).exchanges = (checkedOut h config s).exchanges ++
      [⟨.setDryRun config.dryRun,
        (h.answer (.setDryRun config.dryRun) (checkedOut h config s).state).result⟩] := by
  rw [dryRunSet, asked_exchanges, announced_exchanges, announced_state]

/-- The ends of the preparation of an opened repository. -/
inductive Prepared (h : Handle σ) (config : Config) (s : Session σ) :
    Except Raised Unit × Session σ → Prop where
  | checkoutFailed {e : Raised}
      (failed : (h.answer (.checkout config.defaultBranch) s.state).result = .error e) :
      Prepared h config s (.error (checkoutFailure config e), checkedOut h config s)
  | dryRunFailed {e : Raised}
      (checkout : (h.answer (.checkout config.defaultBranch) s.state).result = .ok ())
      (failed : (h.answer (.setDryRun config.dryRun) (checkedOut h config s).state).result
        = .error e) :
      Prepared h config s (.error e, dryRunSet h config s)
  | retriesFailed {e : Raised}
      (checkout : (h.answer (.checkout config.defaultBranch) s.state).result = .ok ())
      (dryRun : (h.answer (.setDryRun config.dryRun) (checkedOut h config s).state).result
        = .ok ())
      (failed : (h.answer (.setMaxRetries config.maxRetries) (dryRunSet h config s).state).result
        = .error e) :
      Prepared h config s (.error e, retriesSet h config s)
  | ready
      (checkout : (h.answer (.checkout config.defaultBranch) s.state).result = .ok ())
      (dryRun : (h.answer (.setDryRun config.dryRun) (checkedOut h config s).state).result
        = .ok ())
      (retries : (h.answer (.setMaxRetries config.maxRetries) (dryRunSet h config s).state).result
        = .ok ()) :
      Prepared h config s (.ok (), retriesSet h config s)

/-- Announces a run that only simulates. -/
def announce (config : Config) : Work σ Unit :=
  if config.dryRun then Work.tell dryRunEvent else pure ()

theorem announce_run (h : Handle σ) (config : Config) (s : Session σ) :
    announce config (checkedOut h config s) = (.ok (), announced h config s) := by
  unfold announce announced
  split <;> rfl

/-- The preparation step by step. -/
theorem prepare_eq (h : Handle σ) (config : Config) :
    prepare h config = (do
      Work.tell (checkoutEvent config)
      Work.rewording (checkoutFailure config) (Work.call h (.checkout config.defaultBranch))
      announce config
      Work.call h (.setDryRun config.dryRun)
      Work.call h (.setMaxRetries config.maxRetries)) := by
  unfold prepare announce
  cases config.dryRun <;> rfl

/-- A preparation ends in one of the ways listed. -/
theorem prepare_prepared (h : Handle σ) (config : Config) (s : Session σ) :
    Prepared h config s (prepare h config s) := by
  rw [prepare_eq, bind_ok _ (tell_run _ s)]
  have checkout : Work.rewording (checkoutFailure config)
      (Work.call h (.checkout config.defaultBranch)) (told (checkoutEvent config) s)
      = ((h.answer (.checkout config.defaultBranch) s.state).result.mapError
          (checkoutFailure config), checkedOut h config s) := rfl
  have dryRun : Work.call h (.setDryRun config.dryRun) (announced h config s)
      = ((h.answer (.setDryRun config.dryRun) (checkedOut h config s).state).result,
        dryRunSet h config s) := by
    rw [call_run, announced_state]
    rfl
  -- Each of the three calls ends the preparation, or leads on to the next one.
  cases hc : (h.answer (.checkout config.defaultBranch) s.state).result with
  | error e =>
    rw [hc] at checkout
    rw [bind_error _ checkout]
    exact .checkoutFailed hc
  | ok _ =>
    rw [hc] at checkout
    rw [bind_ok _ checkout, bind_ok _ (announce_run h config s)]
    cases hd : (h.answer (.setDryRun config.dryRun) (checkedOut h config s).state).result with
    | error e =>
      rw [hd] at dryRun
      rw [bind_error _ dryRun]
      exact .dryRunFailed hc hd
    | ok _ =>
      rw [hd] at dryRun
      rw [bind_ok _ dryRun, call_run]
      cases hr : (h.answer (.setMaxRetries config.maxRetries) (dryRunSet h config s).state).result
      · exact .retriesFailed hc hd hr
      · exact .ready hc hd hr

/-- The session after the repository was opened, or was tried to be. -/
def opened (h : Handle σ) (config : Config) (s : Session σ) : Session σ :=
  { s with state := (h.opens config.repoPath config.remote s.state).2 }

/-- The ends of opening and preparing a repository. -/
inductive Created (h : Handle σ) (config : Config) (s : Session σ) :
    Except Raised Unit × Session σ → Prop where
  | unopened {e : Raised}
      (failed : (h.opens config.repoPath config.remote s.state).1 = .error e) :
      Created h config s (.error (openFailure config e), opened h config s)
  | ready {t : Session σ}
      (opens : (h.opens config.repoPath config.remote s.state).1 = .ok ())
      (prepared : Prepared h config (opened h config s) (.ok (), t)) :
      Created h config s (.ok (), t)
  | unprepared {e : Raised} {t : Session σ}
      (opens : (h.opens config.repoPath config.remote s.state).1 = .ok ())
      (prepared : Prepared h config (opened h config s) (.error e, t)) :
      Created h config s
        (match (close h t).1 with
          | .ok _ => .error e
          | .error f => .error f, (close h t).2)

/-- Opening and preparing a repository ends in one of the ways listed. -/
theorem create_created (h : Handle σ) (config : Config) (s : Session σ) :
    Created h config s (create h config s) := by
  have opening : Work.rewording (openFailure config)
      (Work.openAt h config.repoPath config.remote) s
      = ((h.opens config.repoPath config.remote s.state).1.mapError (openFailure config),
        opened h config s) := rfl
  cases ho : (h.opens config.repoPath config.remote s.state).1 with
  | error e =>
    rw [ho] at opening
    rw [create, bind_error _ opening]
    exact .unopened ho
  | ok _ =>
    rw [ho] at opening
    rw [create, bind_ok _ opening, releasingOnFailure]
    rcases hp : prepare h config (opened h config s) with ⟨_ | _, t⟩
    · -- A failure to give the repository back covers up the failure of the preparation.
      have prepared := hp ▸ prepare_prepared h config (opened h config s)
      have ending := Created.unprepared ho prepared
      rcases hc : close h t with ⟨_ | _, u⟩ <;> simpa only [hc] using ending
    · exact .ready ho (hp ▸ prepare_prepared h config (opened h config s))

/-- A repository that was opened and prepared was prepared without a failure. -/
theorem prepared_of_create {h : Handle σ} {config : Config} {s t : Session σ}
    (ok : create h config s = (.ok (), t)) : Prepared h config (opened h config s) (.ok (), t) := by
  have created := ok ▸ create_created h config s
  generalize hr : (Except.ok (), t) = r at created
  cases created with
  | unopened => cases hr
  | unprepared =>
    -- A preparation that failed stays a failure, whatever giving the repository back comes to.
    exfalso
    split at hr <;> cases hr
  | ready _ prepared =>
    cases hr
    exact prepared

/-! ### Publishing -/

/-- The call that looks for a ref in the local repository. -/
def localCall (config : Config) (name : String) : Ref.Kind → Call
  | .branch => .hasLocalBranch name
  | .tag => .tagsOnBranch config.defaultBranch

/-- The answer of the local repository says that it has the ref. -/
def isFound (config : Config) (name : String) :
    (kind : Ref.Kind) → (localCall config name kind).Answer → Bool
  | .branch, found => found
  | .tag, tags => List.contains tags name

/-- The call that asks the remote for a ref. -/
def remoteCall (name : String) : Ref.Kind → Call
  | .branch => .hasRemoteBranch name
  | .tag => .hasRemoteTag name

theorem localCall_method (config : Config) (name : String) (kind : Ref.Kind) :
    (localCall config name kind).method ≠ .push ∧
      (localCall config name kind).method ≠ .setDryRun := by
  cases kind <;> simp [localCall, Call.method]

theorem remoteCall_method (name : String) (kind : Ref.Kind) :
    (remoteCall name kind).method ≠ .push ∧ (remoteCall name kind).method ≠ .setDryRun := by
  cases kind <;> simp [remoteCall, Call.method]

/-- The answer of the remote says that it has the ref. -/
def isPresent (name : String) : (kind : Ref.Kind) → (remoteCall name kind).Answer → Bool
  | .branch, present => present
  | .tag, present => present

section Stages

variable (h : Handle σ) (config : Config) (kind : Ref.Kind) (name : String) (s : Session σ)

/-- The session after the local look-up. -/
def afterLocal : Session σ := asked h (localCall config name kind) s

/-- The session after the remote look-up. -/
def afterRemote : Session σ := asked h (remoteCall name kind) (afterLocal h config kind name s)

/-- The session in which a push was announced. -/
def beforePush : Session σ :=
  told (refEvent config kind name "pushing_ref" [("dry_run", .bool config.dryRun)])
    (afterRemote h config kind name s)

/-- The session after a push, before it is told to have succeeded. -/
def afterPush : Session σ := asked h (.push (kind.fullRef name)) (beforePush h config kind name s)

/-- The local look-up answers, and says whether the ref is there. -/
def LocalSays (found : Bool) : Prop :=
  ∃ a, (h.answer (localCall config name kind) s.state).result = .ok a ∧
    isFound config name kind a = found

/-- The remote look-up answers, and says whether the ref is there. -/
def RemoteSays (present : Bool) : Prop :=
  ∃ a, (h.answer (remoteCall name kind) (afterLocal h config kind name s).state).result = .ok a ∧
    isPresent name kind a = present

variable {h config kind name s} in
/-- The local look-up says one thing only. -/
theorem LocalSays.unique {b c : Bool} (first : LocalSays h config kind name s b)
    (second : LocalSays h config kind name s c) : b = c := by
  obtain ⟨a, answer, rfl⟩ := first
  obtain ⟨a', answer', rfl⟩ := second
  rw [answer] at answer'
  cases answer'
  rfl

variable {h config kind name s} in
/-- The remote look-up says one thing only. -/
theorem RemoteSays.unique {b c : Bool} (first : RemoteSays h config kind name s b)
    (second : RemoteSays h config kind name s c) : b = c := by
  obtain ⟨a, answer, rfl⟩ := first
  obtain ⟨a', answer', rfl⟩ := second
  rw [answer] at answer'
  cases answer'
  rfl

/-- The ends of publishing a ref. -/
inductive Published : Except Raised Outcome × Session σ → Prop where
  | refused {e : Raised} (bad : Ref.check kind config.tagPrefix name = .error e) :
      Published (.error e, s)
  | closed {v : Version} (good : Ref.check kind config.tagPrefix name = .ok v)
      (gone : s.released = true) : Published (.error (closedFailure name), s)
  | localFailed {v : Version} {e : Raised} (good : Ref.check kind config.tagPrefix name = .ok v)
      (there : s.released = false)
      (failed : (h.answer (localCall config name kind) s.state).result = .error e) :
      Published (.error (localFailure config kind name e), afterLocal h config kind name s)
  | missing {v : Version} (good : Ref.check kind config.tagPrefix name = .ok v)
      (there : s.released = false) (found : LocalSays h config kind name s false) :
      Published (.error (missingFailure config kind name), afterLocal h config kind name s)
  | remoteFailed {v : Version} {e : Raised} (good : Ref.check kind config.tagPrefix name = .ok v)
      (there : s.released = false) (found : LocalSays h config kind name s true)
      (failed : (h.answer (remoteCall name kind) (afterLocal h config kind name s).state).result
        = .error e) :
      Published (.error (remoteFailure config kind name e), afterRemote h config kind name s)
  | present {v : Version} (good : Ref.check kind config.tagPrefix name = .ok v)
      (there : s.released = false) (found : LocalSays h config kind name s true)
      (present : RemoteSays h config kind name s true) :
      Published (.ok ⟨name, kind, false, config.dryRun⟩,
        told (refEvent config kind name "ref_already_on_remote" [])
          (afterRemote h config kind name s))
  | pushFailed {v : Version} {e : Raised} (good : Ref.check kind config.tagPrefix name = .ok v)
      (there : s.released = false) (found : LocalSays h config kind name s true)
      (present : RemoteSays h config kind name s false)
      (failed : (h.answer (.push (kind.fullRef name))
        (afterRemote h config kind name s).state).result = .error e) :
      Published (.error (pushFailure kind name e), afterPush h config kind name s)
  | pushed {v : Version} (good : Ref.check kind config.tagPrefix name = .ok v)
      (there : s.released = false) (found : LocalSays h config kind name s true)
      (present : RemoteSays h config kind name s false)
      (succeeded : (h.answer (.push (kind.fullRef name))
        (afterRemote h config kind name s).state).result = .ok ()) :
      Published (.ok ⟨name, kind, true, config.dryRun⟩,
        told (refEvent config kind name "ref_pushed" [("dry_run", .bool config.dryRun)])
          (afterPush h config kind name s))

/-- Looking for a ref is one call, and a failure of it is reworded. -/
theorem isLocal_run :
    isLocal h config kind name s =
      (((h.answer (localCall config name kind) s.state).result.map
          (isFound config name kind)).mapError (localFailure config kind name),
        afterLocal h config kind name s) := by
  cases kind with
  | branch =>
    -- The answer is taken as it is, and `isFound` reads it with the identity.
    have same : ∀ r : Except Raised Bool,
        r.mapError (localFailure config .branch name)
          = (r.map fun b => b).mapError (localFailure config .branch name) := by
      rintro (_ | _) <;> rfl
    exact Prod.ext (same _) rfl
  | tag =>
    unfold isLocal Work.rewording
    simp only [bind_eq, call_run]
    show _ = (((h.answer (.tagsOnBranch config.defaultBranch) s.state).result.map
      fun tags => List.contains tags name).mapError _, _)
    cases (h.answer (.tagsOnBranch config.defaultBranch) s.state).result <;> rfl

/-- Asking the remote is one call, and a failure of it is reworded. -/
theorem isRemote_run :
    isRemote h config kind name s =
      (((h.answer (remoteCall name kind) s.state).result.map
          (isPresent name kind)).mapError (remoteFailure config kind name),
        asked h (remoteCall name kind) s) := by
  have same : ∀ r : Except Raised Bool,
      r.mapError (remoteFailure config kind name)
        = (r.map fun b => b).mapError (remoteFailure config kind name) := by
    rintro (_ | _) <;> rfl
  cases kind <;> exact Prod.ext (same _) rfl

/-- A push is announced, made, and told to have succeeded if it did. -/
theorem push_run :
    push h config kind name (afterRemote h config kind name s) =
      match (h.answer (.push (kind.fullRef name)) (afterRemote h config kind name s).state).result
      with
      | .error e => (.error (pushFailure kind name e), afterPush h config kind name s)
      | .ok _ => (.ok (),
          told (refEvent config kind name "ref_pushed" [("dry_run", .bool config.dryRun)])
            (afterPush h config kind name s)) := by
  unfold push
  rw [bind_ok _ (tell_run _ _)]
  have pushing : Work.rewording (pushFailure kind name) (Work.call h (.push (kind.fullRef name)))
      (beforePush h config kind name s)
      = ((h.answer (.push (kind.fullRef name))
          (afterRemote h config kind name s).state).result.mapError (pushFailure kind name),
        afterPush h config kind name s) := rfl
  cases hp : (h.answer (.push (kind.fullRef name)) (afterRemote h config kind name s).state).result
  <;> rw [hp] at pushing
  · exact bind_error _ pushing
  · exact bind_ok _ pushing

/-- The second half of publishing: the remote is asked, and the ref is pushed if it is missing
there. -/
def pushUnlessPresent : Work σ Outcome := do
  if ← isRemote h config kind name then
    Work.tell (refEvent config kind name "ref_already_on_remote" [])
    return ⟨name, kind, false, config.dryRun⟩
  else
    push h config kind name
    return ⟨name, kind, true, config.dryRun⟩

variable {h config kind name s}

/-- Once the ref was found, publishing it ends in one of the ways listed. -/
theorem pushUnlessPresent_published {v : Version}
    (good : Ref.check kind config.tagPrefix name = .ok v) (there : s.released = false)
    (found : LocalSays h config kind name s true) :
    Published h config kind name s
      (pushUnlessPresent h config kind name (afterLocal h config kind name s)) := by
  unfold pushUnlessPresent
  have asking : isRemote h config kind name (afterLocal h config kind name s)
      = (_, afterRemote h config kind name s) := isRemote_run h config kind name _
  cases hr : (h.answer (remoteCall name kind) (afterLocal h config kind name s).state).result with
  | error e =>
    rw [hr] at asking
    rw [bind_error _ asking]
    exact .remoteFailed good there found hr
  | ok b =>
    rw [hr] at asking
    rw [bind_ok _ asking]
    cases present : isPresent name kind b with
    | true => exact .present good there found ⟨b, hr, present⟩
    | false =>
      rw [if_neg Bool.false_ne_true]
      have pushing := push_run h config kind name s
      cases hp : (h.answer (.push (kind.fullRef name))
          (afterRemote h config kind name s).state).result with
      | error e =>
        rw [hp] at pushing
        rw [bind_error _ pushing]
        exact .pushFailed good there found ⟨b, hr, present⟩ hp
      | ok _ =>
        rw [hp] at pushing
        rw [bind_ok _ pushing]
        exact .pushed good there found ⟨b, hr, present⟩ hp

variable (h config kind name s)

/-- Publishing a ref ends in one of the ways listed. -/
theorem publish_published : Published h config kind name s (publish h config kind name s) := by
  unfold publish
  cases good : Ref.check kind config.tagPrefix name with
  | error e =>
    have refused : checkName config kind name s = (.error e, s) := by simp [checkName, good]
    rw [bind_error _ refused]
    exact .refused good
  | ok v =>
    have accepted : checkName config kind name s = (.ok (), s) := by simp [checkName, good]
    rw [bind_ok _ accepted]
    cases there : s.released with
    | true =>
      have gone : checkOpen name s = (.error (closedFailure name), s) := by
        simp [checkOpen, there]
      rw [bind_error _ gone]
      exact .closed good there
    | false =>
      have held : checkOpen name s = (.ok (), s) := by simp [checkOpen, there]
      rw [bind_ok _ held]
      have looking := isLocal_run h config kind name s
      cases hl : (h.answer (localCall config name kind) s.state).result with
      | error e =>
        rw [hl] at looking
        rw [bind_error _ looking]
        exact .localFailed good there hl
      | ok a =>
        rw [hl] at looking
        rw [bind_ok _ looking]
        cases found : isFound config name kind a with
        | false => exact .missing good there ⟨a, hl, found⟩
        | true => exact pushUnlessPresent_published good there ⟨a, hl, found⟩

/-- Publishing does not give the repository back. -/
theorem publish_released : (publish h config kind name s).2.released = s.released := by
  rcases hp : publish h config kind name s with ⟨r, t⟩
  cases hp ▸ publish_published h config kind name s <;> rfl

variable {h config kind name s}

/-- The calls of a publication that gets as far as the remote. -/
theorem afterRemote_trace {a : (localCall config name kind).Answer}
    (looked : (h.answer (localCall config name kind) s.state).result = .ok a) :
    (afterRemote h config kind name s).exchanges = s.exchanges ++
      [⟨localCall config name kind, .ok a⟩, ⟨remoteCall name kind,
        (h.answer (remoteCall name kind) (afterLocal h config kind name s).state).result⟩] := by
  rw [afterRemote, asked_exchanges, afterLocal, asked_exchanges, looked, List.append_assoc]
  rfl

/-- The calls of a publication that gets as far as the push. -/
theorem afterPush_trace {a : (localCall config name kind).Answer}
    {b : (remoteCall name kind).Answer}
    (looked : (h.answer (localCall config name kind) s.state).result = .ok a)
    (queried : (h.answer (remoteCall name kind) (afterLocal h config kind name s).state).result
      = .ok b) :
    (afterPush h config kind name s).exchanges = s.exchanges ++
      [⟨localCall config name kind, .ok a⟩, ⟨remoteCall name kind, .ok b⟩,
        ⟨.push (kind.fullRef name), (h.answer (.push (kind.fullRef name))
          (afterRemote h config kind name s).state).result⟩] := by
  rw [afterPush, asked_exchanges, beforePush, told_exchanges, told_state, afterRemote_trace looked,
    queried, List.append_assoc]
  rfl

/-- A name that is refused ends publishing at once. -/
theorem publish_refused {e : Raised} (bad : Ref.check kind config.tagPrefix name = .error e) :
    publish h config kind name s = (.error e, s) := by
  rcases hp : publish h config kind name s with ⟨r, t⟩
  cases hp ▸ publish_published h config kind name s with
  | refused bad' => rw [Except.error.inj (bad.symm.trans bad')]
  | closed good => cases bad.symm.trans good
  | localFailed good => cases bad.symm.trans good
  | missing good => cases bad.symm.trans good
  | remoteFailed good => cases bad.symm.trans good
  | present good => cases bad.symm.trans good
  | pushFailed good => cases bad.symm.trans good
  | pushed good => cases bad.symm.trans good

/-- Publishing ends at once if the repository was given back. -/
theorem publish_closed {v : Version} (good : Ref.check kind config.tagPrefix name = .ok v)
    (gone : s.released = true) :
    publish h config kind name s = (.error (closedFailure name), s) := by
  simp [publish, checkName, good, checkOpen, gone, bind_eq]

/-- Once the local repository says that it does not have the ref, no other call is made. -/
theorem publish_missing {v : Version} (good : Ref.check kind config.tagPrefix name = .ok v)
    (there : s.released = false) (absent : LocalSays h config kind name s false) :
    publish h config kind name s =
      (.error (missingFailure config kind name), afterLocal h config kind name s) := by
  have unfound {P : Prop} (found : LocalSays h config kind name s true) : P := by
    cases absent.unique found
  rcases hp : publish h config kind name s with ⟨r, t⟩
  cases hp ▸ publish_published h config kind name s with
  | refused bad => cases good.symm.trans bad
  | closed _ gone => cases there.symm.trans gone
  | localFailed _ _ failed =>
    obtain ⟨a, looked, -⟩ := absent
    cases looked.symm.trans failed
  | missing => rfl
  | remoteFailed _ _ found => exact unfound found
  | present _ _ found => exact unfound found
  | pushFailed _ _ found => exact unfound found
  | pushed _ _ found => exact unfound found

/-- Once the local repository says that it has the ref, the remote is asked, whatever comes then. -/
theorem publish_asks {v : Version} (good : Ref.check kind config.tagPrefix name = .ok v)
    (there : s.released = false) (found : LocalSays h config kind name s true) :
    (afterRemote h config kind name s).exchanges <+:
      (publish h config kind name s).2.exchanges := by
  rcases hp : publish h config kind name s with ⟨r, t⟩
  cases hp ▸ publish_published h config kind name s with
  | refused bad => cases good.symm.trans bad
  | closed _ gone => cases there.symm.trans gone
  | localFailed _ _ failed =>
    obtain ⟨a, answer, -⟩ := found
    cases answer.symm.trans failed
  | missing _ _ missing => cases found.unique missing
  | remoteFailed => exact List.prefix_rfl
  | present => exact List.prefix_rfl
  | pushFailed => exact List.prefix_append _ _
  | pushed => exact List.prefix_append _ _

/-- A ref with an accepted name that is here and not there is pushed. -/
theorem publish_pushes {v : Version} (good : Ref.check kind config.tagPrefix name = .ok v)
    (there : s.released = false) (found : LocalSays h config kind name s true)
    (absent : RemoteSays h config kind name s false) :
    (publish h config kind name s).2.exchanges = (afterPush h config kind name s).exchanges := by
  rcases hp : publish h config kind name s with ⟨r, t⟩
  cases hp ▸ publish_published h config kind name s with
  | refused bad => cases good.symm.trans bad
  | closed _ gone => cases there.symm.trans gone
  | localFailed _ _ failed =>
    obtain ⟨a, answer, -⟩ := found
    cases answer.symm.trans failed
  | missing _ _ missing => cases found.unique missing
  | remoteFailed _ _ _ failed =>
    obtain ⟨a, answer, -⟩ := absent
    cases answer.symm.trans failed
  | present _ _ _ present => cases absent.unique present
  | pushFailed => rfl
  | pushed => rfl

end Stages

end ReleaseRefs.Proofs.Publish
