import ReleaseRefs.Config.Basic
import ReleaseRefs.Publish.Handle
import ReleaseRefs.Publish.Outcome

/-!
# `ReleaseRefs.Publish.Publisher`: publishing refs once

To publish a ref is to check its name, to find it in the local repository, to ask the remote for it,
and to push it only if the remote does not have it. A second run therefore skips what a first one
has pushed.

- `Publisher.create` opens a repository and prepares it, `Publisher.publish` publishes one ref, and
  `Publisher.close` gives the repository back.
- `Step` is a step of a run, `Publisher.perform` performs it.
- `Publisher.createThen` opens a repository and goes through what is to be done with it;
  `Publisher.run` goes through steps and `Publisher.release` through refs to publish.
-/

set_option autoImplicit false

namespace ReleaseRefs.Publish.Publisher

variable {σ : Type}

/-- The part of the tool that publishes. -/
def source : String := "ref_publisher.publisher"

/-- A failure of the repository becomes another one, with the first as its cause; any other failure
stays as it is. -/
def rewordGit (f : GitFailure → Failure) (r : Raised) : Raised :=
  match r.failure with
  | .git g => .fromCause (f g) r.failure
  | _ => r

/-! ### Opening -/

/-- The failure to open a repository. -/
def openFailure (config : Config) (r : Raised) : Raised :=
  match r.failure with
  | .git ⟨.opening _, _⟩ => r
  | _ => rewordGit
      (fun g => .git ⟨.opening (some (.located config.repoPath)),
        "While opening repository " ++ config.repoPath.text ++ ": " ++ g.message⟩) r

/-- The failure to check the first branch out. -/
def checkoutFailure (config : Config) (r : Raised) : Raised :=
  match r.failure with
  | .git ⟨.checkout _ _, _⟩ => r
  | _ => rewordGit
      (fun g => .git ⟨.checkout (some config.defaultBranch) false,
        "Checking out " ++ config.defaultBranch ++ " branch: " ++ g.message⟩) r

/-- Gives the repository back, unless that was done before. -/
def close (h : Handle σ) : Work σ Unit := fun s =>
  if s.released then (.ok (), s)
  else Work.call h .close { s with released := true }

/-- The event about the first checkout. -/
def checkoutEvent (config : Config) : Log.Event :=
  .make source .info "checkout_default_branch"
    [("branch", .text config.defaultBranch), ("repo_path", .text config.repoPath.text)]

/-- The event about a run that only simulates. -/
def dryRunEvent : Log.Event :=
  .make source .debug "dry_run_enabled" [("detail", .text "pushes will be simulated")]

/-- Prepares an opened repository: checks the first branch out and hands the options over. -/
def prepare (h : Handle σ) (config : Config) : Work σ Unit := do
  Work.tell (checkoutEvent config)
  Work.rewording (checkoutFailure config) (Work.call h (.checkout config.defaultBranch))
  if config.dryRun then Work.tell dryRunEvent
  Work.call h (.setDryRun config.dryRun)
  Work.call h (.setMaxRetries config.maxRetries)

/-- Does something, gives the repository back if that fails, and goes on failing. A failure to give
it back takes the place of the first one. -/
def releasingOnFailure {α : Type} (h : Handle σ) (w : Work σ α) : Work σ α := fun s =>
  match w s with
  | (.ok a, t) => (.ok a, t)
  | (.error e, t) =>
    match close h t with
    | (.ok _, u) => (.error e, u)
    | (.error f, u) => (.error f, u)

/-- Opens a repository and prepares it. -/
def create (h : Handle σ) (config : Config) : Work σ Unit := do
  Work.rewording (openFailure config) (Work.openAt h config.repoPath config.remote)
  releasingOnFailure h (prepare h config)

/-! ### Publishing -/

/-- A failure to publish a ref. -/
def failure (fault : PublishFault) (name message : String) : Failure :=
  .publish ⟨fault, message, some name⟩

/-- The failure to query the local repository. -/
def localFailure (config : Config) (kind : Ref.Kind) (name : String) : Raised → Raised :=
  rewordGit fun g => failure .localLookup name
    (match kind with
      | .branch => "Checking if branch " ++ name ++ " exists locally: " ++ g.message
      | .tag => "Listing tags on branch " ++ config.defaultBranch ++ ": " ++ g.message)

/-- The failure to query the remote. -/
def remoteFailure (config : Config) (kind : Ref.Kind) (name : String) : Raised → Raised :=
  rewordGit fun g => failure .remoteLookup name
    ("Checking if " ++ kind.word ++ " " ++ name ++ " exists in remote " ++ config.remote ++ ": " ++
      g.message)

def pushFailure (kind : Ref.Kind) (name : String) : Raised → Raised :=
  rewordGit fun g => failure .push name
    ("Pushing " ++ kind.word ++ " " ++ name ++ ": " ++ g.message)

/-- The failure of a ref that is missing locally. -/
def missingFailure (config : Config) (kind : Ref.Kind) (name : String) : Raised :=
  .plain (failure .notFound name
    (match kind with
      | .branch => "Unable to push branch " ++ name ++ ", it does not exist in the local repo"
      | .tag => "Unable to push tag " ++ name ++ ", it does not exist on branch " ++
          config.defaultBranch ++ " yet"))

/-- The failure to publish with a repository that was given back. -/
def closedFailure (name : String) : Raised :=
  .plain (failure .closed name "Publisher has been closed")

/-- The local repository has the ref: as a branch, or among the tags that can be reached from the
first branch. -/
def isLocal (h : Handle σ) (config : Config) (kind : Ref.Kind) (name : String) : Work σ Bool :=
  Work.rewording (localFailure config kind name)
    (match kind with
      | .branch => Work.call h (.hasLocalBranch name)
      | .tag => do
        let tags ← Work.call h (.tagsOnBranch config.defaultBranch)
        return (tags : List String).contains name)

def isRemote (h : Handle σ) (config : Config) (kind : Ref.Kind) (name : String) : Work σ Bool :=
  Work.rewording (remoteFailure config kind name)
    (match kind with
      | .branch => Work.call h (.hasRemoteBranch name)
      | .tag => Work.call h (.hasRemoteTag name))

/-- An event about a ref. -/
def refEvent (config : Config) (kind : Ref.Kind) (name event : String)
    (more : List (String × Value)) : Log.Event :=
  .make source .info event
    ([("ref", .text name), ("kind", .text kind.word), ("remote", .text config.remote)] ++ more)

def push (h : Handle σ) (config : Config) (kind : Ref.Kind) (name : String) : Work σ Unit := do
  Work.tell (refEvent config kind name "pushing_ref" [("dry_run", .bool config.dryRun)])
  Work.rewording (pushFailure kind name) (Work.call h (.push (kind.fullRef name)))
  Work.tell (refEvent config kind name "ref_pushed" [("dry_run", .bool config.dryRun)])

/-- Accepts the name of a ref. -/
def checkName (config : Config) (kind : Ref.Kind) (name : String) : Work σ Unit := fun s =>
  (match Ref.check kind config.tagPrefix name with
    | .ok _ => .ok ()
    | .error e => .error e, s)

/-- Fails if the repository was given back. -/
def checkOpen (name : String) : Work σ Unit := fun s =>
  (if s.released then .error (closedFailure name) else .ok (), s)

def publish (h : Handle σ) (config : Config) (kind : Ref.Kind) (name : String) :
    Work σ Outcome := do
  checkName config kind name
  checkOpen name
  if ← isLocal h config kind name then
    if ← isRemote h config kind name then
      Work.tell (refEvent config kind name "ref_already_on_remote" [])
      return ⟨name, kind, false, config.dryRun⟩
    else
      push h config kind name
      return ⟨name, kind, true, config.dryRun⟩
  else throw (missingFailure config kind name)

/-! ### Runs -/

/-- Does something and then gives the repository back, however it went. A failure to give it back
takes the place of any other. -/
def closing {α : Type} (h : Handle σ) (w : Work σ α) : Work σ α := fun s =>
  let r := w s
  match close h r.2 with
  | (.ok _, t) => (r.1, t)
  | (.error e, t) => (.error e, t)

end Publisher

/-- A step of a run with a publisher. -/
inductive Step (σ : Type) where
  | publish (kind : Ref.Kind) (name : String)
  | close
  /-- Looks at the options. -/
  | inspect
  /-- Steps after which the repository is given back. -/
  | block (steps : List (Step σ))
  /-- Steps of which the first failure is caught. -/
  | caught (steps : List (Step σ))
  /-- Fails. -/
  | fail (r : Raised)
  /-- Something outside the tool changes the repository. -/
  | alter (f : σ → σ)

instance {σ : Type} : Inhabited (Step σ) := ⟨.close⟩

/-- What a step yields. -/
inductive Yield where
  | nothing
  | outcome (o : Outcome)
  | options (c : Config)
  | all (ys : List Yield)

namespace Publisher

variable {σ : Type}

mutual

def perform (h : Handle σ) (config : Config) : Step σ → Work σ Yield
  | .publish kind name => do return .outcome (← publish h config kind name)
  | .close => do close h; return .nothing
  | .inspect => return .options config
  | .block steps => closing h (do return .all (← performAll h config steps))
  | .caught steps => fun s => (.ok .nothing, (performAll h config steps s).2)
  | .fail r => throw r
  | .alter f => fun s => (.ok .nothing, { s with state := f s.state })

/-- Performs steps up to the first that fails. -/
def performAll (h : Handle σ) (config : Config) : List (Step σ) → Work σ (List Yield)
  | [] => return []
  | s :: ss => do
    let y ← perform h config s
    let ys ← performAll h config ss
    return y :: ys

end

/-- Opens a repository, prepares it, and goes through computations, each whatever the earlier ones
came to. -/
def createThen {α : Type} (h : Handle σ) (config : Config) (ws : List (Work σ α)) :
    Work σ (List (Except Raised α)) := do
  create h config
  ExceptT.lift (Work.each ws)

/-- A run: a publisher is created, and steps are performed one after the other. -/
def run (h : Handle σ) (config : Config) (steps : List (Step σ)) :
    Work σ (List (Except Raised Yield)) :=
  createThen h config (steps.map (perform h config))

/-- A release: a publisher is created, and refs are published one after the other. -/
def release (h : Handle σ) (config : Config) (refs : List (Ref.Kind × String)) :
    Work σ (List (Except Raised Outcome)) :=
  createThen h config (refs.map fun r => publish h config r.1 r.2)

end Publisher

end ReleaseRefs.Publish
