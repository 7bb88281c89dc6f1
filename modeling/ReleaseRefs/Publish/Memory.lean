import ReleaseRefs.Publish.Handle
import ReleaseRefs.Ref.Kind

/-!
# `ReleaseRefs.Publish.Memory`: a repository in memory

- `Memory` has local branches, local tags and the refs of a remote; failures can be planned for the
  calls of each kind.
- `Memory.handle` answers calls from it. A call that fails as planned changes nothing else.
- `serve_push_remoteRefs`: a push puts its ref behind those of the remote, unless it is simulated.
-/

set_option autoImplicit false

namespace ReleaseRefs.Publish

/-- A repository in memory. -/
structure Memory where
  branches : List String
  tags : List String
  /-- The full refs of the remote. -/
  remoteRefs : List String
  /-- Pushes are only simulated. -/
  dryRun : Bool
  /-- The failure to open the repository, if it is planned. -/
  opening : Option Raised
  /-- For each kind of call, whether the next calls fail, and how. -/
  faults : Method → List (Option Raised)

namespace Memory

/-- The repository after a call of a kind has used its plan up. -/
def advance (m : Memory) (k : Method) : Memory :=
  { m with faults := fun l => if l = k then (m.faults l).drop 1 else m.faults l }

/-- The answer to a call that does not fail, and what the call changes. -/
def serve (m : Memory) : (c : Call) → c.Answer × Memory
  | .checkout _ => ((), m)
  | .setDryRun b => ((), { m with dryRun := b })
  | .setMaxRetries _ => ((), m)
  | .hasLocalBranch name => (m.branches.contains name, m)
  | .hasRemoteBranch name => (m.remoteRefs.contains (Ref.Kind.branch.fullRef name), m)
  | .tagsOnBranch _ => (m.tags, m)
  | .hasRemoteTag name => (m.remoteRefs.contains (Ref.Kind.tag.fullRef name), m)
  | .push ref => ((), if m.dryRun then m else { m with remoteRefs := m.remoteRefs ++ [ref] })
  | .close => ((), m)

/-- The reply to a call: the planned failure, or the answer. -/
def reply (c : Call) (m : Memory) : Reply Memory c :=
  let n := m.advance c.method
  match (m.faults c.method).headD none with
  | some r => ⟨.error r, [], n⟩
  | none =>
    let s := n.serve c
    ⟨.ok s.1, [], s.2⟩

/-- The repository in memory as the publisher sees it. -/
def handle : Handle Memory where
  opens _ _ m :=
    (match m.opening with
      | some r => .error r
      | none => .ok (), m)
  answer := reply

/-- A push puts its ref behind those of the remote, unless it is simulated. -/
theorem serve_push_remoteRefs (m : Memory) (ref : String) :
    (m.serve (.push ref)).2.remoteRefs =
      if m.dryRun then m.remoteRefs else m.remoteRefs ++ [ref] := by
  cases h : m.dryRun <;> simp [serve, h]

/-- Using up a plan leaves the refs of the remote alone. -/
theorem advance_remoteRefs (m : Memory) (k : Method) : (m.advance k).remoteRefs = m.remoteRefs :=
  rfl

end Memory

end ReleaseRefs.Publish
