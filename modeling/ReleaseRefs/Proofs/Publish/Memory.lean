import ReleaseRefs.Proofs.Publish.Publication
import ReleaseRefs.Publish.Memory

/-!
# `ReleaseRefs.Proofs.Publish.Memory`: calls on the repository in memory

The repository in memory fails a call if that was planned, and then changes nothing but the plan.
Otherwise it serves the call. This module says what a call can do to it, and what publishing a ref
comes to over it.

- `Keeps` says that the refs of both sides are the same in two states. Every call but a push keeps
  them (`answer_keeps`), whether it fails or not. Only one call changes the mode (`answer_dryRun`).
- `LocalSays.memory` and `RemoteSays.memory`: a look-up that answers tells the truth.
- `Effect` has the two things that publishing can do: nothing, or one push of a ref that was
  publishable and not on the remote (`publish_effect`).
- `Faultless` says that no failure is planned. Then publishing succeeds exactly for publishable refs
  (`publish_faultless`).
-/

set_option autoImplicit false

namespace ReleaseRefs.Proofs.Publish

open ReleaseRefs.Publish ReleaseRefs.Publish.Publisher

/-! ### One call -/

/-- The refs of the local repository and of the remote are the same in two states. -/
structure Keeps (m n : Memory) : Prop where
  branches : n.branches = m.branches
  tags : n.tags = m.tags
  remoteRefs : n.remoteRefs = m.remoteRefs

theorem Keeps.refl (m : Memory) : Keeps m m := ⟨rfl, rfl, rfl⟩

theorem Keeps.trans {m n o : Memory} (first : Keeps m n) (second : Keeps n o) : Keeps m o where
  branches := second.branches.trans first.branches
  tags := second.tags.trans first.tags
  remoteRefs := second.remoteRefs.trans first.remoteRefs

/-- A call fails as planned, or it is served. -/
theorem answer_cases (c : Call) (m : Memory) :
    (∃ e, (Memory.handle.answer c m).result = .error e ∧
      (Memory.handle.answer c m).state = m.advance c.method) ∨
    ((Memory.handle.answer c m).result = .ok ((m.advance c.method).serve c).1 ∧
      (Memory.handle.answer c m).state = ((m.advance c.method).serve c).2) := by
  simp only [Memory.handle, Memory.reply]
  cases (m.faults c.method).headD none with
  | some e => exact .inl ⟨e, rfl, rfl⟩
  | none => exact .inr ⟨rfl, rfl⟩

/-- A call that fails keeps the refs. -/
theorem answer_keeps_of_error {c : Call} {m : Memory} {e : Raised}
    (failed : (Memory.handle.answer c m).result = .error e) :
    Keeps m (Memory.handle.answer c m).state := by
  rcases answer_cases c m with ⟨_, -, state⟩ | ⟨served, -⟩
  · rw [state]
    exact ⟨rfl, rfl, rfl⟩
  · cases failed.symm.trans served

/-- Every call but a push keeps the refs. -/
theorem answer_keeps {c : Call} (m : Memory) (noPush : c.method ≠ .push) :
    Keeps m (Memory.handle.answer c m).state := by
  rcases answer_cases c m with ⟨e, failed, -⟩ | ⟨-, state⟩
  · exact answer_keeps_of_error failed
  · rw [state]
    cases c with
    | push => exact absurd rfl noPush
    | _ => exact ⟨rfl, rfl, rfl⟩

/-- Every call but a change of the mode keeps the mode. -/
theorem answer_dryRun {c : Call} (m : Memory) (noMode : c.method ≠ .setDryRun) :
    (Memory.handle.answer c m).state.dryRun = m.dryRun := by
  rcases answer_cases c m with ⟨e, -, state⟩ | ⟨-, state⟩ <;> rw [state]
  · rfl
  · cases c with
    | setDryRun => exact absurd rfl noMode
    | push ref =>
      simp only [Memory.serve]
      split <;> rfl
    | _ => rfl

/-- A change of the mode that is served changes the mode. -/
theorem answer_setDryRun {m : Memory} {b : Bool}
    (served : (Memory.handle.answer (.setDryRun b) m).result = .ok ()) :
    (Memory.handle.answer (.setDryRun b) m).state.dryRun = b := by
  rcases answer_cases (.setDryRun b) m with ⟨e, failed, -⟩ | ⟨-, state⟩
  · cases served.symm.trans failed
  · rw [state]
    rfl

/-- A push that is served puts its ref behind those of the remote, unless it is simulated. -/
theorem answer_push {m : Memory} {ref : String}
    (served : (Memory.handle.answer (.push ref) m).result = .ok ()) :
    (Memory.handle.answer (.push ref) m).state.branches = m.branches ∧
      (Memory.handle.answer (.push ref) m).state.tags = m.tags ∧
      (Memory.handle.answer (.push ref) m).state.remoteRefs =
        if m.dryRun then m.remoteRefs else m.remoteRefs ++ [ref] := by
  rcases answer_cases (.push ref) m with ⟨e, failed, -⟩ | ⟨-, state⟩
  · cases served.symm.trans failed
  · rw [state]
    refine ⟨?_, ?_, Memory.serve_push_remoteRefs _ ref⟩
    all_goals
      simp only [Memory.serve]
      split <;> rfl

/-! ### Look-ups -/

/-- The local repository has the ref. -/
def HasLocal (m : Memory) : Ref.Kind → String → Prop
  | .branch, name => name ∈ m.branches
  | .tag, name => name ∈ m.tags

section LookUps

variable {config : Config} {kind : Ref.Kind} {name : String} {s : Session Memory}

/-- The local look-up keeps the refs. -/
theorem afterLocal_keeps (config : Config) (kind : Ref.Kind) (name : String)
    (s : Session Memory) : Keeps s.state (afterLocal Memory.handle config kind name s).state :=
  answer_keeps _ (localCall_method config name kind).1

/-- Both look-ups keep the refs. -/
theorem afterRemote_keeps (config : Config) (kind : Ref.Kind) (name : String)
    (s : Session Memory) : Keeps s.state (afterRemote Memory.handle config kind name s).state :=
  (afterLocal_keeps config kind name s).trans (answer_keeps _ (remoteCall_method name kind).1)

/-- Both look-ups keep the mode. -/
theorem afterRemote_dryRun (config : Config) (kind : Ref.Kind) (name : String)
    (s : Session Memory) :
    (afterRemote Memory.handle config kind name s).state.dryRun = s.state.dryRun :=
  (answer_dryRun _ (remoteCall_method name kind).2).trans
    (answer_dryRun _ (localCall_method config name kind).2)

/-- A local look-up that is served tells whether the ref is there. -/
theorem answer_local {m : Memory} {a : (localCall config name kind).Answer}
    (served : (Memory.handle.answer (localCall config name kind) m).result = .ok a) :
    isFound config name kind a = true ↔ HasLocal m kind name := by
  rcases answer_cases (localCall config name kind) m with ⟨e, failed, -⟩ | ⟨answer, -⟩
  · cases served.symm.trans failed
  · obtain rfl := Except.ok.inj (served.symm.trans answer)
    cases kind <;> exact List.contains_iff_mem

/-- A remote look-up that is served tells whether the remote has the ref. -/
theorem answer_remote {m : Memory} {a : (remoteCall name kind).Answer}
    (served : (Memory.handle.answer (remoteCall name kind) m).result = .ok a) :
    isPresent name kind a = true ↔ kind.fullRef name ∈ m.remoteRefs := by
  rcases answer_cases (remoteCall name kind) m with ⟨e, failed, -⟩ | ⟨answer, -⟩
  · cases served.symm.trans failed
  · obtain rfl := Except.ok.inj (served.symm.trans answer)
    cases kind <;> exact List.contains_iff_mem

/-- The local look-up of a publication tells whether the ref is there. -/
theorem LocalSays.memory {found : Bool}
    (answered : LocalSays Memory.handle config kind name s found) :
    found = true ↔ HasLocal s.state kind name := by
  obtain ⟨a, answer, rfl⟩ := answered
  exact answer_local answer

/-- The remote look-up of a publication tells whether the remote has the ref. -/
theorem RemoteSays.memory {present : Bool}
    (answered : RemoteSays Memory.handle config kind name s present) :
    present = true ↔ kind.fullRef name ∈ s.state.remoteRefs := by
  obtain ⟨a, answer, rfl⟩ := answered
  rw [← (afterLocal_keeps config kind name s).remoteRefs]
  exact answer_remote answer

end LookUps

/-! ### Publishing -/

/-- The ref that an exchange pushed with success. -/
def pushedRef? : Exchange → Option String
  | ⟨.push ref, .ok _⟩ => some ref
  | _ => none

/-- The refs that were pushed with success, in order. -/
def pushedRefs (xs : List Exchange) : List String := xs.filterMap pushedRef?

theorem pushedRefs_append (xs ys : List Exchange) :
    pushedRefs (xs ++ ys) = pushedRefs xs ++ pushedRefs ys :=
  List.filterMap_append

/-- A call that is no push pushes nothing. -/
theorem pushedRefs_quiet {c : Call} (r : Except Raised c.Answer) (noPush : c.method ≠ .push) :
    pushedRefs [⟨c, r⟩] = [] := by
  cases c with
  | push => exact absurd rfl noPush
  | _ => rfl

/-- A ref that can be published: its name is accepted and the local repository has it. -/
def Publishable (config : Config) (m : Memory) (ref : Ref.Kind × String) : Prop :=
  (∃ v, Ref.check ref.1 config.tagPrefix ref.2 = .ok v) ∧ HasLocal m ref.1 ref.2

/-- The result says that the ref was pushed. -/
def saysPushed : Except Raised Outcome → Bool
  | .ok o => o.pushed
  | .error _ => false

/-- What publishing a ref does to a session: nothing, or one push of a publishable ref that the
remote did not have. -/
inductive Effect (config : Config) (kind : Ref.Kind) (name : String) (s t : Session Memory) :
    Except Raised Outcome → Prop where
  | kept {r : Except Raised Outcome} (keeps : Keeps s.state t.state)
      (trace : pushedRefs t.exchanges = pushedRefs s.exchanges) (quiet : saysPushed r = false) :
      Effect config kind name s t r
  | added (publishable : Publishable config s.state (kind, name))
      (absent : kind.fullRef name ∉ s.state.remoteRefs)
      (branches : t.state.branches = s.state.branches) (tags : t.state.tags = s.state.tags)
      (remoteRefs : t.state.remoteRefs = if s.state.dryRun then s.state.remoteRefs
        else s.state.remoteRefs ++ [kind.fullRef name])
      (trace : pushedRefs t.exchanges = pushedRefs s.exchanges ++ [kind.fullRef name]) :
      Effect config kind name s t (.ok ⟨name, kind, true, config.dryRun⟩)

/-- The remote grows by the ref exactly if the result says that it was pushed and pushes are not
simulated. -/
theorem Effect.remoteRefs_eq {config : Config} {kind : Ref.Kind} {name : String}
    {s t : Session Memory} {r : Except Raised Outcome} (effect : Effect config kind name s t r) :
    t.state.remoteRefs = s.state.remoteRefs ++
      if saysPushed r = true ∧ s.state.dryRun = false then [kind.fullRef name] else [] := by
  cases effect with
  | kept keeps _ quiet => simp [keeps.remoteRefs, quiet]
  | added _ _ _ _ remoteRefs => cases mode : s.state.dryRun <;> simp [remoteRefs, mode, saysPushed]

section Publishing

variable (config : Config) (kind : Ref.Kind) (name : String) (s : Session Memory)

theorem afterLocal_pushedRefs :
    pushedRefs (afterLocal Memory.handle config kind name s).exchanges
      = pushedRefs s.exchanges := by
  rw [afterLocal, asked_exchanges, pushedRefs_append,
    pushedRefs_quiet _ (localCall_method config name kind).1, List.append_nil]

theorem afterRemote_pushedRefs :
    pushedRefs (afterRemote Memory.handle config kind name s).exchanges
      = pushedRefs s.exchanges := by
  rw [afterRemote, asked_exchanges, pushedRefs_append,
    pushedRefs_quiet _ (remoteCall_method name kind).1, List.append_nil, afterLocal_pushedRefs]

/-- Publishing a ref does nothing, or it pushes the ref, which then was publishable and missing. -/
theorem publish_effect :
    Effect config kind name s (publish Memory.handle config kind name s).2
      (publish Memory.handle config kind name s).1 := by
  have looked := afterLocal_keeps config kind name s
  have queried := afterRemote_keeps config kind name s
  have lookedTrace := afterLocal_pushedRefs config kind name s
  have queriedTrace := afterRemote_pushedRefs config kind name s
  rcases hp : publish Memory.handle config kind name s with ⟨r, t⟩
  cases hp ▸ publish_published Memory.handle config kind name s with
  | refused => exact .kept (.refl _) rfl rfl
  | closed => exact .kept (.refl _) rfl rfl
  | localFailed => exact .kept looked lookedTrace rfl
  | missing => exact .kept looked lookedTrace rfl
  | remoteFailed => exact .kept queried queriedTrace rfl
  | present => exact .kept queried queriedTrace rfl
  | pushFailed _ _ _ _ failed =>
    -- The push is on the trace, but not among the refs that were pushed with success.
    refine .kept (queried.trans (answer_keeps_of_error failed)) ?_ rfl
    rw [afterPush, asked_exchanges, pushedRefs_append, beforePush, told_exchanges, told_state,
      failed, queriedTrace]
    simp [pushedRefs, pushedRef?]
  | pushed good _ found absent served =>
    obtain ⟨branches, tags, remoteRefs⟩ := answer_push served
    refine .added ⟨⟨_, good⟩, found.memory.1 rfl⟩
      (fun present => Bool.false_ne_true (absent.memory.2 present))
      (branches.trans queried.branches) (tags.trans queried.tags) ?_ ?_
    · rw [← afterRemote_dryRun config kind name s, ← queried.remoteRefs]
      exact remoteRefs
    · rw [told_exchanges, afterPush, asked_exchanges, pushedRefs_append, beforePush,
        told_exchanges, told_state, served, queriedTrace]
      rfl

/-- Publishing keeps the mode. -/
theorem publish_dryRun :
    (publish Memory.handle config kind name s).2.state.dryRun = s.state.dryRun := by
  have looked : (afterLocal Memory.handle config kind name s).state.dryRun = s.state.dryRun :=
    answer_dryRun _ (localCall_method config name kind).2
  have queried := afterRemote_dryRun config kind name s
  have pushed : (afterPush Memory.handle config kind name s).state.dryRun = s.state.dryRun :=
    (answer_dryRun _ (by simp [Call.method])).trans queried
  rcases hp : publish Memory.handle config kind name s with ⟨r, t⟩
  cases hp ▸ publish_published Memory.handle config kind name s with
  | refused => rfl
  | closed => rfl
  | localFailed => exact looked
  | missing => exact looked
  | remoteFailed => exact queried
  | present => exact queried
  | pushFailed => exact pushed
  | pushed => exact pushed

end Publishing

/-! ### Opening -/

section Opening

variable (config : Config) (s : Session Memory)

/-- Refs are kept and none is pushed from one session to another. -/
structure Untouched (s t : Session Memory) : Prop where
  keeps : Keeps s.state t.state
  trace : pushedRefs t.exchanges = pushedRefs s.exchanges

variable {s} in
theorem Untouched.trans {t u : Session Memory} (first : Untouched s t) (second : Untouched t u) :
    Untouched s u :=
  ⟨first.keeps.trans second.keeps, second.trace.trans first.trace⟩

/-- Every call but a push leaves the refs untouched. -/
theorem asked_untouched (c : Call) (noPush : c.method ≠ .push) :
    Untouched s (asked Memory.handle c s) where
  keeps := answer_keeps _ noPush
  trace := by rw [asked_exchanges, pushedRefs_append, pushedRefs_quiet _ noPush, List.append_nil]

theorem checkedOut_untouched : Untouched s (checkedOut Memory.handle config s) :=
  Untouched.trans (t := told (checkoutEvent config) s) ⟨.refl _, rfl⟩
    (asked_untouched _ (.checkout config.defaultBranch) (by simp [Call.method]))

theorem dryRunSet_untouched : Untouched s (dryRunSet Memory.handle config s) := by
  have announcing : Untouched (checkedOut Memory.handle config s)
      (announced Memory.handle config s) :=
    ⟨by rw [announced_state]; exact .refl _, by rw [announced_exchanges]⟩
  exact ((checkedOut_untouched config s).trans announcing).trans
    (asked_untouched _ (.setDryRun config.dryRun) (by simp [Call.method]))

theorem retriesSet_untouched : Untouched s (retriesSet Memory.handle config s) :=
  (dryRunSet_untouched config s).trans
    (asked_untouched _ (.setMaxRetries config.maxRetries) (by simp [Call.method]))

variable {config s} in
/-- A preparation leaves the refs untouched. -/
theorem Prepared.untouched {r : Except Raised Unit} {t : Session Memory}
    (prepared : Prepared Memory.handle config s (r, t)) : Untouched s t := by
  cases prepared with
  | checkoutFailed => exact checkedOut_untouched config s
  | dryRunFailed => exact dryRunSet_untouched config s
  | retriesFailed => exact retriesSet_untouched config s
  | ready => exact retriesSet_untouched config s

/-- Opening and preparing a repository leaves the refs untouched, however it ends. -/
theorem create_untouched : Untouched s (create Memory.handle config s).2 := by
  have opening : Untouched s (opened Memory.handle config s) := ⟨.refl _, rfl⟩
  have closing (t : Session Memory) : Untouched t (close Memory.handle t).2 := by
    rw [close_run]
    split
    · exact ⟨.refl _, rfl⟩
    · exact Untouched.trans (t := released t) ⟨.refl _, rfl⟩
        (asked_untouched _ .close (by simp [Call.method]))
  rcases hc : create Memory.handle config s with ⟨r, t⟩
  cases hc ▸ create_created Memory.handle config s with
  | unopened => exact opening
  | ready _ prepared => exact opening.trans prepared.untouched
  | unprepared _ prepared => exact (opening.trans prepared.untouched).trans (closing _)

variable {config s} in
/-- Once a repository was opened and prepared, it is not given back, and it has the mode of the
configuration. -/
theorem create_ready {t : Session Memory} (ok : create Memory.handle config s = (.ok (), t)) :
    t.released = s.released ∧ t.state.dryRun = config.dryRun := by
  cases prepared_of_create ok with
  | ready _ dryRun _ =>
    refine ⟨retriesSet_released Memory.handle config _, ?_⟩
    refine (answer_dryRun _ (by simp [Call.method])).trans ?_
    rw [← announced_state] at dryRun
    exact answer_setDryRun dryRun

end Opening

/-! ### Without planned failures -/

/-- No failure is planned. -/
def Faultless (m : Memory) : Prop := ∀ k, m.faults k = []

/-- Without planned failures every call is served, and stays without them. -/
theorem answer_faultless {m : Memory} (faultless : Faultless m) (c : Call) :
    (Memory.handle.answer c m).result = .ok ((m.advance c.method).serve c).1 ∧
      Faultless (Memory.handle.answer c m).state := by
  have advanced : Faultless (m.advance c.method) := by
    intro k
    simp only [Memory.advance, faultless k, List.drop_nil, ite_self]
  have served : Memory.handle.answer c m
      = ⟨.ok ((m.advance c.method).serve c).1, [], ((m.advance c.method).serve c).2⟩ := by
    simp only [Memory.handle, Memory.reply, faultless c.method, List.headD_nil]
  rw [served]
  refine ⟨rfl, ?_⟩
  cases c with
  | push ref =>
    intro k
    simp only [Memory.serve]
    split <;> exact advanced k
  | _ => exact advanced

section Faultless

/-- Without planned failures no call fails. -/
theorem Faultless.not_error {m : Memory} (faultless : Faultless m) {c : Call} {e : Raised} :
    (Memory.handle.answer c m).result ≠ .error e := by
  rw [(answer_faultless faultless c).1]
  exact nofun

/-- Without planned failures a repository is opened and prepared. -/
theorem create_faultless (config : Config) {s : Session Memory}
    (opening : s.state.opening = none) (faultless : Faultless s.state) :
    ∃ t, create Memory.handle config s = (.ok (), t) ∧ Faultless t.state := by
  have atFirst : Faultless (opened Memory.handle config s).state := faultless
  have checkout : Faultless (checkedOut Memory.handle config (opened Memory.handle config s)).state
    := (answer_faultless atFirst _).2
  have dryRun : Faultless (dryRunSet Memory.handle config (opened Memory.handle config s)).state :=
    (answer_faultless (by rw [announced_state]; exact checkout) _).2
  have retries : Faultless (retriesSet Memory.handle config (opened Memory.handle config s)).state
    := (answer_faultless dryRun _).2
  rcases hc : create Memory.handle config s with ⟨r, t⟩
  cases hc ▸ create_created Memory.handle config s with
  | unopened failed => simp [Memory.handle, opening] at failed
  | ready _ prepared =>
    cases prepared with
    | ready => exact ⟨_, rfl, retries⟩
  | unprepared _ prepared =>
    -- Each way to fail starts with a call that fails, from a state in which none does.
    exfalso
    cases prepared with
    | checkoutFailed failed => exact atFirst.not_error failed
    | dryRunFailed _ failed => exact checkout.not_error failed
    | retriesFailed _ _ failed => exact dryRun.not_error failed

variable {s : Session Memory}

/-- Without planned failures, publishing succeeds exactly for publishable refs. It says that it
pushed exactly if the remote did not have the ref. -/
theorem publish_faultless (config : Config) (kind : Ref.Kind) (name : String)
    (faultless : Faultless s.state) (there : s.released = false) :
    Faultless (publish Memory.handle config kind name s).2.state ∧
      ((Publishable config s.state (kind, name) ∧
          (publish Memory.handle config kind name s).1 =
            .ok ⟨name, kind, decide (kind.fullRef name ∉ s.state.remoteRefs), config.dryRun⟩) ∨
        (¬ Publishable config s.state (kind, name) ∧
          ∃ e, (publish Memory.handle config kind name s).1 = .error e)) := by
  have looked : Faultless (afterLocal Memory.handle config kind name s).state :=
    (answer_faultless faultless _).2
  have queried : Faultless (afterRemote Memory.handle config kind name s).state :=
    (answer_faultless looked _).2
  have pushed : Faultless (afterPush Memory.handle config kind name s).state :=
    (answer_faultless queried _).2
  rcases hp : publish Memory.handle config kind name s with ⟨r, t⟩
  cases hp ▸ publish_published Memory.handle config kind name s with
  | refused bad =>
    refine ⟨faultless, .inr ⟨?_, _, rfl⟩⟩
    rintro ⟨⟨v, good⟩, -⟩
    cases good.symm.trans bad
  | closed _ gone => cases there.symm.trans gone
  | localFailed _ _ failed => exact absurd failed faultless.not_error
  | missing _ _ missing =>
    refine ⟨looked, .inr ⟨fun publishable => ?_, _, rfl⟩⟩
    exact Bool.false_ne_true (missing.memory.2 publishable.2)
  | remoteFailed _ _ _ failed => exact absurd failed looked.not_error
  | present good _ found present =>
    refine ⟨queried, .inl ⟨⟨⟨_, good⟩, found.memory.1 rfl⟩, ?_⟩⟩
    simp [present.memory.1 rfl]
  | pushFailed _ _ _ _ failed => exact absurd failed queried.not_error
  | pushed good _ found absent =>
    have missing : kind.fullRef name ∉ s.state.remoteRefs :=
      fun present => Bool.false_ne_true (absent.memory.2 present)
    refine ⟨pushed, .inl ⟨⟨⟨_, good⟩, found.memory.1 rfl⟩, ?_⟩⟩
    simp [missing]

end Faultless

end ReleaseRefs.Proofs.Publish
