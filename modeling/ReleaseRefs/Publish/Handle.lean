import ReleaseRefs.Failure
import ReleaseRefs.Log.Event

/-!
# `ReleaseRefs.Publish.Handle`: the repository as the publisher sees it

The publisher reaches a repository through a handle that is bound to one remote: it opens it, makes
calls on it, and each call answers or fails.

- `Call` is a call with its arguments, `Call.Answer` the type of what it answers, and `Exchange` a
  call with what came of it.
- `Handle` says how a repository answers, `Session` keeps its state with the trace of exchanges and
  the events so far, and `Work` is a computation over a session.
- `Work.call` makes a call: it is put on the trace, however it ends (`call_calls`).
- `Work.tell` tells an event and `Work.rewording` rewords failures; neither makes a call of its own
  (`tell_calls`, `rewording_snd`).
- `Work.each` goes through computations one after the other, whatever the earlier ones come to.
-/

set_option autoImplicit false

namespace ReleaseRefs.Publish

/-- The kinds of call on a repository. -/
inductive Method where
  | checkout
  | setDryRun
  | setMaxRetries
  | hasLocalBranch
  | hasRemoteBranch
  | tagsOnBranch
  | hasRemoteTag
  | push
  | close
  deriving DecidableEq, Repr

/-- A call on a repository. -/
inductive Call where
  | checkout (branch : String)
  | setDryRun (dryRun : Bool)
  | setMaxRetries (count : Int)
  | hasLocalBranch (name : String)
  | hasRemoteBranch (name : String)
  /-- The tags that can be reached from a branch. -/
  | tagsOnBranch (branch : String)
  | hasRemoteTag (name : String)
  /-- Pushes a full ref. -/
  | push (ref : String)
  | close
  deriving DecidableEq, Repr

namespace Call

/-- The kind of a call. -/
def method : Call → Method
  | .checkout _ => .checkout
  | .setDryRun _ => .setDryRun
  | .setMaxRetries _ => .setMaxRetries
  | .hasLocalBranch _ => .hasLocalBranch
  | .hasRemoteBranch _ => .hasRemoteBranch
  | .tagsOnBranch _ => .tagsOnBranch
  | .hasRemoteTag _ => .hasRemoteTag
  | .push _ => .push
  | .close => .close

abbrev Answer : Call → Type
  | .hasLocalBranch _ => Bool
  | .hasRemoteBranch _ => Bool
  | .tagsOnBranch _ => List String
  | .hasRemoteTag _ => Bool
  | _ => Unit

end Call

/-- A call with its answer or failure. -/
structure Exchange where
  call : Call
  result : Except Raised call.Answer

/-- The outcome of a call: its answer or a failure, what there is to tell, and the state behind
it. -/
structure Reply (σ : Type) (c : Call) where
  result : Except Raised c.Answer
  events : List Log.Event
  state : σ

/-- A repository with states in `σ`: how it is opened for a remote, and how it answers calls. -/
structure Handle (σ : Type) where
  opens : Path → String → σ → Except Raised Unit × σ
  answer : (c : Call) → σ → Reply σ c

/-- A repository in use. -/
structure Session (σ : Type) where
  state : σ
  /-- The handle was given back. -/
  released : Bool
  /-- The calls so far, each with how it ended. -/
  exchanges : List Exchange
  /-- The events so far. -/
  events : List Log.Event

/-- A session before the first call. -/
def Session.start {σ : Type} (state : σ) : Session σ := ⟨state, false, [], []⟩

/-- The calls so far. -/
def Session.calls {σ : Type} (s : Session σ) : List Call := s.exchanges.map Exchange.call

/-- A computation over a session, which may fail. -/
abbrev Work (σ α : Type) := ExceptT Raised (StateM (Session σ)) α

namespace Work

variable {σ : Type}

/-- Makes a call. -/
def call (h : Handle σ) (c : Call) : Work σ c.Answer := fun s =>
  let r := h.answer c s.state
  (r.result,
    { s with
        state := r.state
        exchanges := s.exchanges ++ [⟨c, r.result⟩]
        events := s.events ++ r.events })

def tell (e : Log.Event) : Work σ Unit := fun s =>
  (.ok (), { s with events := s.events ++ [e] })

/-- Opens the repository. -/
def openAt (h : Handle σ) (path : Path) (remote : String) : Work σ Unit := fun s =>
  let r := h.opens path remote s.state
  (r.1, { s with state := r.2 })

/-- A computation whose failures are reworded on their way up. -/
def rewording {α : Type} (f : Raised → Raised) (w : Work σ α) : Work σ α := fun s =>
  let r := w s
  (r.1.mapError f, r.2)

/-- Goes through computations one after the other, whatever the earlier ones come to. -/
def each {α : Type} : List (Work σ α) → StateM (Session σ) (List (Except Raised α))
  | [], s => ([], s)
  | w :: ws, s =>
    let r := w s
    let rest := each ws r.2
    (r.1 :: rest.1, rest.2)

/-- Every call is put on the trace. -/
theorem call_calls (h : Handle σ) (c : Call) (s : Session σ) :
    (call h c s).2.calls = s.calls ++ [c] := by
  simp [Session.calls, call]

/-- Telling an event makes no call. -/
theorem tell_calls (e : Log.Event) (s : Session σ) : (tell e s).2.calls = s.calls := rfl

/-- Rewording failures leaves the session as the computation left it. -/
theorem rewording_snd {α : Type} (f : Raised → Raised) (w : Work σ α) (s : Session σ) :
    (rewording f w s).2 = (w s).2 := rfl

end Work

end ReleaseRefs.Publish
