import ReleaseRefs.Git.Diagnosis
import ReleaseRefs.Git.Program
import ReleaseRefs.Publish.Handle

/-!
# `ReleaseRefs.Git.Repository`: a repository reached through git

The repository is bound to one remote. Commands over the network are stopped after a time and tried
again after failures that may pass, with pauses that double from one second up to ten.

- `Repository.openAt`, `checkout`, `hasLocalBranch`, `tagsOnBranch`, `hasRemoteRef`, `push` and
  `close` are the operations; `attempts` is the loop around a network command.
- `Repository.handle` is the repository as the publisher sees it.
- `run_actions`: a command is put on the trace however it ends; `pause_le`: no pause is longer than
  ten seconds.
-/

set_option autoImplicit false

namespace ReleaseRefs.Git

/-- A repository reached through git. -/
structure Repository (γ : Type) where
  git : γ
  remote : String
  /-- The seconds after which a network command is stopped. -/
  timeout : Value
  /-- Pushes are only simulated. -/
  dryRun : Bool
  /-- How often a failed network command is tried again. -/
  maxRetries : Nat
  /-- What was done with git so far. -/
  actions : List Action
  /-- The events so far. -/
  events : List Log.Event

/-- A computation over a repository, which may fail. -/
abbrev Job (γ α : Type) := ExceptT Raised (StateM (Repository γ)) α

namespace Repository

variable {γ : Type}

/-- The part of the tool that runs git. -/
def source : String := "ref_publisher.git.repository"

/-- The seconds after which a network command is stopped, unless something else was asked for. -/
def usualTimeout : Value := .float (.ofInt 60)

/-- How often a failed network command is tried again, unless something else was asked for. -/
def usualRetries : Nat := 3

/-- A repository that is not opened yet. -/
def unopened (git : γ) (timeout : Value) : Repository γ :=
  { git, remote := "", timeout, dryRun := false, maxRetries := usualRetries, actions := [],
    events := [] }

/-- Puts something on the trace. -/
def record (a : Action) : Job γ Unit := fun s =>
  (.ok (), { s with actions := s.actions ++ [a] })

def tell (e : Log.Event) : Job γ Unit := fun s =>
  (.ok (), { s with events := s.events ++ [e] })

/-- Runs a command once. -/
def run (p : Program γ) (words : List String) (timeout : Option Value) :
    Job γ (Except Failure String) :=
  fun s =>
    let r := p.run words s.git
    (.ok r.1, { s with git := r.2, actions := s.actions ++ [.ran words timeout] })

/-- The outcome of a command, where a command that ran and failed is diagnosed. -/
def settle (operation ref : String) : Except Failure String → Job γ String
  | .ok t => pure t
  | .error (.command f) => throw (.fromCause (.git (diagnose f operation ref)) (.command f))
  | .error f => throw (.plain f)

/-! ### Opening and settings -/

def openFailure (place : Place) (shown : String) (f : Failure) : Raised :=
  let unfit : Raised :=
    .fromCause (.git ⟨.opening (some place), "Not a git repository: " ++ shown⟩) f
  match f with
  | .programMissing _ =>
    .fromCause (.git ⟨.missingProgram, "Git CLI not found. Please install git."⟩) f
  | .notRepository _ => unfit
  | .noSuchPath _ => unfit
  | _ => .plain f

/-- Opens a place as a repository bound to a remote. -/
def openAt (p : Program γ) (place : Place) (remote : String) : Job γ Unit := fun s =>
  let path := match place with
    | .named t => Path.ofText t
    | .located q => q
  let shown := match place with
    | .named t => t
    | .located q => q.text
  let r := p.opens path s.git
  let t := { s with git := r.2, remote := remote, actions := s.actions ++ [.opened path] }
  (match r.1 with
    | .ok _ => .ok ()
    | .error f => .error (openFailure place shown f), t)

/-- From now on pushes are simulated or real. -/
def setDryRun (b : Bool) : Job γ Unit := fun s => (.ok (), { s with dryRun := b })

/-- From now on failed network commands are tried again this often. -/
def setMaxRetries (n : Int) : Job γ Unit := fun s =>
  if n < 0 then
    (.error (.plain (.fault .value ("max_retries must be >= 0, got " ++ toString n))), s)
  else (.ok (), { s with maxRetries := n.toNat })

/-- Gives the repository back. -/
def close : Job γ Unit := record .closed

/-! ### The local repository -/

/-- Switches to a branch. -/
def checkout (p : Program γ) (branch : String) : Job γ Unit := do
  let r ← run p ["checkout", branch] none
  let _ ← settle "checkout" branch r
  tell ⟨"Checked out branch: %s", .info, source, [.text branch], []⟩

/-- The failure to list the branches: of git, of the system, or a value that does not fit. -/
def branchFailure (f : Failure) : Raised :=
  let message := "Unable to list local branches: " ++ f.text
  let listed : Raised := .fromCause (.git ⟨.other (some "list_branches") false, message⟩) f
  match f with
  | .command _ => listed
  | _ => if f.isSystem || f.isUnfitValue then listed else .plain f

def hasLocalBranch (p : Program γ) (name : String) : Job γ Bool := fun s =>
  let r := p.branches s.git
  (match r.1 with
    | .ok names => .ok (names.contains name)
    | .error f => .error (branchFailure f), { s with git := r.2 })

/-- The names in a printed list, one a line. -/
def namesIn (output : String) : List String :=
  ((Text.lines output).map Text.strip).filter fun name => !name.isEmpty

/-- The tags that can be reached from a branch, the newest version first. -/
def tagsOnBranch (p : Program γ) (branch : String) : Job γ (List String) := do
  let r ← run p ["tag", "--sort=-v:refname", "--merged", branch] none
  let output ← settle "list_tags" branch r
  return namesIn output

/-! ### The remote -/

/-- The seconds to wait before the attempt after the `n`-th: twice as many each time, from one up to
ten. -/
def pause (n : Nat) : Nat := max 1 (min (Nat.pow 2 (min (n - 1) 4)) 10)

/-- The event about another attempt. -/
def retryEvent (operation : String) (attempt maxRetries : Nat) (f : Failure) : Log.Event :=
  .make source .warning "git_retry"
    [("operation", .text operation), ("attempt", .int attempt), ("max_retries", .int maxRetries),
      ("error", .text f.text)]

/-- Runs a network command, and again after failures that may pass, as long as retries are left. -/
def attempts (p : Program γ) (operation : String) (words : List String) :
    (left attempt : Nat) → Job γ (Except Failure String)
  | 0, _ => do run p words (some (← get).timeout)
  | left + 1, attempt => do
    let r ← run p words (some (← get).timeout)
    match r with
    | .ok t => return .ok t
    | .error f =>
      if isTransient f then do
        tell (retryEvent operation attempt (← get).maxRetries f)
        record (.slept (pause attempt))
        attempts p operation words left (attempt + 1)
      else return .error f

/-- Runs a network command with retries. -/
def overNetwork (p : Program γ) (operation : String) (words : List String) (ref : String) :
    Job γ String := do
  let r ← attempts p operation words (← get).maxRetries 1
  settle operation ref r

/-- A line of a listing names the ref: it has exactly two columns, and the second is the ref. -/
def lists (ref : String) (line : List Char) : Bool :=
  match Text.splitAt '\t' line with
  | [_, name] => Text.stripChars name == ref.toList
  | _ => false

/-- A listing of a remote has the ref. -/
def listingHas (output ref : String) : Bool :=
  (Text.splitAt '\n' output.toList).any (lists ref)

/-- The option that limits a listing to refs of a kind. -/
def listingOption : Ref.Kind → String
  | .branch => "--heads"
  | .tag => "--tags"

/-- Refuses a remote that would make git start another program. -/
def checkRemote : Job γ Unit := fun s =>
  (match danger? s.remote with
    | some d => .error (.plain (.dangerous d))
    | none => .ok (), s)

/-- The remote has the ref. A remote that is refused is not asked. -/
def hasRemoteRef (p : Program γ) (kind : Ref.Kind) (name : String) : Job γ Bool := do
  checkRemote
  let ref := kind.fullRef name
  let words := ["ls-remote", listingOption kind, (← get).remote, ref]
  let output ← overNetwork p "ls_remote" words ref
  return listingHas output ref

/-- The command that pushes a ref. -/
def pushWords (dryRun : Bool) (remote ref : String) : List String :=
  ["push"] ++ (if dryRun then ["--dry-run"] else []) ++ [remote, ref]

/-- Pushes a ref to the remote. -/
def push (p : Program γ) (ref : String) : Job γ Unit := do
  let s ← get
  let _ ← overNetwork p "push" (pushWords s.dryRun s.remote ref) ref
  tell ⟨"Push%s completed to %s/%s", .info, source,
    [.text (if s.dryRun then " (dry-run)" else ""), .text s.remote, .text ref], []⟩

/-! ### The handle -/

/-- The operation for a call. -/
def perform (p : Program γ) : (c : Publish.Call) → Job γ c.Answer
  | .checkout branch => checkout p branch
  | .setDryRun b => setDryRun b
  | .setMaxRetries n => setMaxRetries n
  | .hasLocalBranch name => hasLocalBranch p name
  | .hasRemoteBranch name => hasRemoteRef p .branch name
  | .tagsOnBranch branch => tagsOnBranch p branch
  | .hasRemoteTag name => hasRemoteRef p .tag name
  | .push ref => push p ref
  | .close => close

def reply (p : Program γ) (c : Publish.Call) (s : Repository γ) :
    Publish.Reply (Repository γ) c :=
  let r := perform p c { s with events := [] }
  ⟨r.1, r.2.events, { r.2 with events := [] }⟩

/-- The repository as the publisher sees it. -/
def handle (p : Program γ) : Publish.Handle (Repository γ) where
  opens path remote s := openAt p (.located path) remote s
  answer := reply p

/-- A command is put on the trace, however it ends. -/
theorem run_actions (p : Program γ) (words : List String) (timeout : Option Value)
    (s : Repository γ) : (run p words timeout s).2.actions = s.actions ++ [.ran words timeout] :=
  rfl

/-- No pause is longer than ten seconds. -/
theorem pause_le (n : Nat) : pause n ≤ 10 := by
  unfold pause
  omega

end Repository

end ReleaseRefs.Git
