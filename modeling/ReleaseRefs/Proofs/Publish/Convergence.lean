import Mathlib.Data.List.Forall2
import Mathlib.Data.List.Nodup
import ReleaseRefs.Proofs.Publish.Memory

/-!
# `ReleaseRefs.Proofs.Publish.Convergence`: a release that is run again

A release publishes a row of refs, each whatever the earlier ones came to. Any call may fail on the
way. Then the release is run again, until nothing fails. `release_converges` says that this is safe
and that it gets there, over the repository in memory and for pushes that are not simulated:

- no ref is pushed twice or over one that the remote had, and the remote grows by just the refs that
  were pushed, in that order;
- a result says that it pushed exactly if the remote grew by its ref;
- a second run without failures pushes nothing that the first one had pushed. It fails only for refs
  that nobody can publish, and then the remote has what it had and all that was asked for.

`Progress` is the invariant of the first run. It keeps the row of pushed refs beside the remote.
`publish_effect` gives its step (`UnderWay.publish`), and a run is a row of steps
(`UnderWay.each`). The second run is an induction over the same row (`Serving.each`). The two runs
meet in `Ref.Kind.fullRef_injective`: a branch and a tag may share a name, and the refs that
the first run pushed still tell which requests they came from.
-/

set_option autoImplicit false

namespace ReleaseRefs.Proofs.Publish

open ReleaseRefs.Publish ReleaseRefs.Publish.Publisher

/-! ### Rows of computations -/

section Rows

variable {σ α : Type}

/-- A row of computations in two parts. -/
theorem each_append (ws vs : List (Work σ α)) (s : Session σ) :
    Work.each (ws ++ vs) s =
      ((Work.each ws s).1 ++ (Work.each vs (Work.each ws s).2).1,
        (Work.each vs (Work.each ws s).2).2) := by
  induction ws generalizing s with
  | nil => rfl
  | cons w ws ih => simp only [List.cons_append, Work.each, ih]

/-- A row has as many results as computations. -/
theorem each_length (ws : List (Work σ α)) (s : Session σ) :
    (Work.each ws s).1.length = ws.length := by
  induction ws generalizing s with
  | nil => rfl
  | cons w ws ih => simp only [Work.each, List.length_cons, ih]

/-- The computation at a place starts from where those before it ended. -/
theorem each_getElem? {ws : List (Work σ α)} {s : Session σ} {i : Nat} {w : Work σ α}
    (here : ws[i]? = some w) :
    (Work.each ws s).1[i]? = some (w (Work.each (ws.take i) s).2).1 ∧
      (Work.each (ws.take (i + 1)) s).2 = (w (Work.each (ws.take i) s).2).2 := by
  have length : (Work.each (ws.take i) s).1.length = i := by
    rw [each_length, List.length_take]
    have := (List.getElem?_eq_some_iff.1 here).1
    omega
  -- The row is cut at the place, so that the results in front of it can be counted.
  have split : ws = ws.take i ++ w :: ws.drop (i + 1) := by
    obtain ⟨bound, rfl⟩ := List.getElem?_eq_some_iff.1 here
    rw [List.getElem_cons_drop, List.take_append_drop]
  constructor
  · conv_lhs => rw [split, each_append]
    rw [List.getElem?_append_right (by omega), length, Nat.sub_self]
    rfl
  · rw [List.take_add_one, here, each_append]
    rfl

end Rows

/-! ### The first run -/

section FirstRun

variable {config : Config} {m : Memory} {refs : List (Ref.Kind × String)} {s : Session Memory}

/-- Whether a ref can be published hangs on the branches and tags only. -/
theorem Publishable.congr {n : Memory} {ref : Ref.Kind × String}
    (branches : n.branches = m.branches) (tags : n.tags = m.tags) :
    Publishable config n ref ↔ Publishable config m ref := by
  unfold Publishable HasLocal
  rw [branches, tags]

/-- The remote holds what it held before a release and the refs that were pushed since, in order.
No ref was pushed twice, and none that the remote had before. -/
structure Delivered (m : Memory) (s : Session Memory) : Prop where
  once : (pushedRefs s.exchanges).Nodup
  fresh : ∀ ref ∈ pushedRefs s.exchanges, ref ∉ m.remoteRefs
  remote : s.state.remoteRefs = m.remoteRefs ++ pushedRefs s.exchanges

/-- How far a release of some refs got: the local repository is as it was, and the refs that were
pushed are among those to publish. -/
structure Progress (config : Config) (m : Memory) (refs : List (Ref.Kind × String))
    (s : Session Memory) : Prop extends Delivered m s where
  branches : s.state.branches = m.branches
  tags : s.state.tags = m.tags
  requested : ∀ x ∈ pushedRefs s.exchanges,
    ∃ ref ∈ refs, Publishable config m ref ∧ x = ref.1.fullRef ref.2

/-- A release under way: its publisher is open, and pushes are not simulated. -/
structure UnderWay (config : Config) (m : Memory) (refs : List (Ref.Kind × String))
    (s : Session Memory) : Prop extends Progress config m refs s where
  there : s.released = false
  dryRun : s.state.dryRun = false

/-- Without a push there is no progress, and nothing else has changed. -/
theorem Untouched.progress (untouched : Untouched (.start m) s) : Progress config m refs s := by
  have none : pushedRefs s.exchanges = [] := untouched.trace
  refine ⟨⟨?_, ?_, ?_⟩, untouched.keeps.branches, untouched.keeps.tags, ?_⟩
  · rw [none]
    exact .nil
  · simp [none]
  · rw [none, List.append_nil]
    exact untouched.keeps.remoteRefs
  · simp [none]

/-- A release is under way once its publisher was created. -/
theorem UnderWay.created (real : config.dryRun = false) {t : Session Memory}
    (ok : create Memory.handle config (.start m) = (.ok (), t)) : UnderWay config m refs t := by
  have untouched := create_untouched config (.start m)
  rw [ok] at untouched
  exact ⟨untouched.progress, (create_ready ok).1, (create_ready ok).2.trans real⟩

/-- Publishing one of the refs keeps a release under way. -/
theorem UnderWay.publish (underWay : UnderWay config m refs s) {ref : Ref.Kind × String}
    (asked : ref ∈ refs) :
    UnderWay config m refs (Publisher.publish Memory.handle config ref.1 ref.2 s).2 := by
  have dryRun := (publish_dryRun config ref.1 ref.2 s).trans underWay.dryRun
  have there := (publish_released Memory.handle config ref.1 ref.2 s).trans underWay.there
  have effect := publish_effect config ref.1 ref.2 s
  generalize Publisher.publish Memory.handle config ref.1 ref.2 s = rt at dryRun there effect ⊢
  obtain ⟨r, t⟩ := rt
  refine ⟨?_, there, dryRun⟩
  cases effect with
  | kept keeps trace =>
    refine ⟨⟨?_, ?_, ?_⟩, keeps.branches.trans underWay.branches,
      keeps.tags.trans underWay.tags, ?_⟩
    · rw [trace]
      exact underWay.once
    · rw [trace]
      exact underWay.fresh
    · rw [trace, keeps.remoteRefs]
      exact underWay.remote
    · rw [trace]
      exact underWay.requested
  | added publishable absent branches tags remoteRefs trace =>
    -- The ref was not on the remote, so it was neither there before nor pushed since.
    rw [underWay.remote, List.mem_append, not_or] at absent
    refine ⟨⟨?_, ?_, ?_⟩, branches.trans underWay.branches, tags.trans underWay.tags, ?_⟩
    · rw [trace, List.nodup_append]
      refine ⟨underWay.once, List.nodup_singleton _, ?_⟩
      intro x member y single same
      rw [List.mem_singleton] at single
      exact absent.2 (single ▸ same ▸ member)
    · intro x member
      rw [trace, List.mem_append, List.mem_singleton] at member
      rcases member with member | rfl
      · exact underWay.fresh x member
      · exact absent.1
    · rw [remoteRefs, underWay.dryRun, if_neg Bool.false_ne_true, trace, underWay.remote,
        List.append_assoc]
    · intro x member
      rw [trace, List.mem_append, List.mem_singleton] at member
      rcases member with member | rfl
      · exact underWay.requested x member
      · exact ⟨ref, asked, (Publishable.congr underWay.branches underWay.tags).1 publishable, rfl⟩

/-- The computations that publish refs, one after the other. -/
def publications (config : Config) (refs : List (Ref.Kind × String)) :
    List (Work Memory Outcome) :=
  refs.map fun ref => Publisher.publish Memory.handle config ref.1 ref.2

/-- Publishing some of the refs one after the other keeps a release under way. -/
theorem UnderWay.each (underWay : UnderWay config m refs s) {some : List (Ref.Kind × String)}
    (sub : some ⊆ refs) : UnderWay config m refs (Work.each (publications config some) s).2 := by
  induction some generalizing s with
  | nil => exact underWay
  | cons ref rest ih =>
    exact ih (underWay.publish (sub List.mem_cons_self)) fun x member =>
      sub (List.mem_cons_of_mem ref member)

/-- A release publishes its refs from where its publisher was created, if one was. -/
theorem release_run (config : Config) (refs : List (Ref.Kind × String)) (s : Session Memory) :
    release Memory.handle config refs s =
      match create Memory.handle config s with
      | (.ok _, t) => (.ok (Work.each (publications config refs) t).1,
          (Work.each (publications config refs) t).2)
      | (.error e, t) => (.error e, t) := by
  unfold release createThen
  rw [bind_eq]
  rcases create Memory.handle config s with ⟨_ | _, t⟩ <;> rfl

/-- A release with results has created its publisher and gone through all of its refs. -/
theorem release_created {results : List (Except Raised Outcome)}
    (done : (release Memory.handle config refs s).1 = .ok results) :
    ∃ t, create Memory.handle config s = (.ok (), t) ∧
      Work.each (publications config refs) t =
        (results, (release Memory.handle config refs s).2) := by
  rw [release_run] at done ⊢
  rcases hc : create Memory.handle config s with ⟨e | _, t⟩ <;> rw [hc] at done
  · cases done
  · exact ⟨t, rfl, Prod.ext (Except.ok.inj done) rfl⟩

/-- A release makes progress, however many of its calls fail. -/
theorem release_progress (real : config.dryRun = false) (m : Memory)
    (refs : List (Ref.Kind × String)) :
    Progress config m refs (release Memory.handle config refs (.start m)).2 := by
  have untouched := create_untouched config (.start m)
  rw [release_run]
  rcases hc : create Memory.handle config (.start m) with ⟨e | _, t⟩ <;> rw [hc] at untouched
  · exact untouched.progress
  · exact ((UnderWay.created real hc).each (List.Subset.refl refs)).toProgress

/-- For pushes that are not simulated, the remote grows by a ref exactly if the result says that it
was pushed. -/
theorem Effect.grows {kind : Ref.Kind} {name : String} {t : Session Memory}
    {r : Except Raised Outcome} (effect : Effect config kind name s t r)
    (real : s.state.dryRun = false) :
    t.state.remoteRefs =
      s.state.remoteRefs ++ if saysPushed r then [kind.fullRef name] else [] := by
  simp only [effect.remoteRefs_eq, real, and_true]

/-- The remote after the first requests of a release and one more is the remote after the first
requests, with the ref of the one more behind it exactly if its result says that it was pushed. -/
theorem release_grows (real : config.dryRun = false) {results : List (Except Raised Outcome)}
    (done : (release Memory.handle config refs (.start m)).1 = .ok results) {i : Nat}
    {ref : Ref.Kind × String} {r : Except Raised Outcome} (request : refs[i]? = some ref)
    (result : results[i]? = some r) :
    (release Memory.handle config (refs.take (i + 1)) (.start m)).2.state.remoteRefs =
      (release Memory.handle config (refs.take i) (.start m)).2.state.remoteRefs ++
        if saysPushed r then [ref.1.fullRef ref.2] else [] := by
  obtain ⟨t, created, same⟩ := release_created done
  obtain rfl : _ = results := (Prod.ext_iff.1 same).1
  have here : (publications config refs)[i]?
      = some (Publisher.publish Memory.handle config ref.1 ref.2) := by
    simp [publications, request]
  obtain ⟨answer, next⟩ := each_getElem? (s := t) here
  have first (n : Nat) : (release Memory.handle config (refs.take n) (.start m)).2
      = (Work.each ((publications config refs).take n) t).2 := by
    rw [release_run, created, publications, publications, List.map_take]
  have underWay : UnderWay config m refs (Work.each ((publications config refs).take i) t).2 := by
    have some := (UnderWay.created real created).each (List.take_subset i refs)
    rwa [publications, List.map_take] at some
  rw [first, first, next, ← Option.some.inj (answer.symm.trans result)]
  exact (publish_effect config ref.1 ref.2 _).grows underWay.dryRun

end FirstRun

/-! ### The second run -/

/-- The repository as it is, with no failures planned any more. -/
def healed (m : Memory) : Memory := { m with opening := none, faults := fun _ => [] }

/-- What a request comes to when nothing fails: a ref that cannot be published is refused, any other
is answered for, and is not pushed again if the remote had it earlier. -/
inductive Answered (config : Config) (m : Memory) (earlier : List String)
    (ref : Ref.Kind × String) : Except Raised Outcome → Prop where
  | done (publishable : Publishable config m ref) {pushed : Bool}
      (again : ref.1.fullRef ref.2 ∈ earlier → pushed = false) :
      Answered config m earlier ref (.ok ⟨ref.2, ref.1, pushed, config.dryRun⟩)
  | refused (unpublishable : ¬ Publishable config m ref) (e : Raised) :
      Answered config m earlier ref (.error e)

/-- A publisher in use whose calls do not fail any more, over the branches and tags of `m`. -/
structure Serving (m : Memory) (s : Session Memory) : Prop where
  faultless : Faultless s.state
  there : s.released = false
  dryRun : s.state.dryRun = false
  branches : s.state.branches = m.branches
  tags : s.state.tags = m.tags

section SecondRun

variable (config : Config) {m : Memory} {s : Session Memory}

/-- One request when nothing fails: its answer, and the refs of the remote after it. -/
theorem Serving.publish (serving : Serving m s) (ref : Ref.Kind × String)
    {earlier : List String} (sub : earlier ⊆ s.state.remoteRefs) :
    Serving m (Publisher.publish Memory.handle config ref.1 ref.2 s).2 ∧
      Answered config m earlier ref (Publisher.publish Memory.handle config ref.1 ref.2 s).1 ∧
      ∀ x, x ∈ (Publisher.publish Memory.handle config ref.1 ref.2 s).2.state.remoteRefs ↔
        x ∈ s.state.remoteRefs ∨ (Publishable config m ref ∧ x = ref.1.fullRef ref.2) := by
  have same : Publishable config s.state ref ↔ Publishable config m ref :=
    Publishable.congr serving.branches serving.tags
  have dryRun := (publish_dryRun config ref.1 ref.2 s).trans serving.dryRun
  have there := (publish_released Memory.handle config ref.1 ref.2 s).trans serving.there
  obtain ⟨faultless, outcome⟩ :=
    publish_faultless config ref.1 ref.2 serving.faultless serving.there
  have effect := publish_effect config ref.1 ref.2 s
  generalize Publisher.publish Memory.handle config ref.1 ref.2 s = rt at *
  obtain ⟨r, t⟩ := rt
  have answer : Answered config m earlier ref r := by
    rcases outcome with ⟨publishable, rfl⟩ | ⟨unpublishable, e, rfl⟩
    · refine .done (same.1 publishable) fun member => ?_
      simpa using sub member
    · exact .refused (mt same.2 unpublishable) e
  cases effect with
  | kept keeps _ quiet =>
    refine ⟨⟨faultless, there, dryRun, keeps.branches.trans serving.branches,
      keeps.tags.trans serving.tags⟩, answer, fun x => ?_⟩
    show x ∈ t.state.remoteRefs ↔ _
    rw [keeps.remoteRefs]
    refine ⟨.inl, ?_⟩
    rintro (member | ⟨publishable, rfl⟩)
    · exact member
    -- A publishable ref that was not pushed was on the remote.
    · rcases outcome with ⟨-, rfl⟩ | ⟨unpublishable, -⟩
      · simpa [saysPushed] using quiet
      · exact absurd (same.2 publishable) unpublishable
  | added publishable _ branches tags remoteRefs =>
    refine ⟨⟨faultless, there, dryRun, branches.trans serving.branches,
      tags.trans serving.tags⟩, answer, fun x => ?_⟩
    show x ∈ t.state.remoteRefs ↔ _
    rw [remoteRefs, serving.dryRun, if_neg Bool.false_ne_true, List.mem_append,
      List.mem_singleton]
    exact or_congr_right ⟨fun isRef => ⟨same.1 publishable, isRef⟩, And.right⟩

/-- Requests when nothing fails: their answers, and the refs of the remote after them. -/
theorem Serving.each (serving : Serving m s) (refs : List (Ref.Kind × String))
    {earlier : List String} (sub : earlier ⊆ s.state.remoteRefs) :
    List.Forall₂ (Answered config m earlier) refs (Work.each (publications config refs) s).1 ∧
      ∀ x, x ∈ (Work.each (publications config refs) s).2.state.remoteRefs ↔
        x ∈ s.state.remoteRefs ∨
          ∃ ref ∈ refs, Publishable config m ref ∧ x = ref.1.fullRef ref.2 := by
  -- On the requests. The refs of the first run stay on the remote, so each request may skip them.
  induction refs generalizing s with
  | nil => exact ⟨.nil, fun x => by simp [publications, Work.each]⟩
  | cons ref refs ih =>
    obtain ⟨next, answer, now⟩ := serving.publish config ref sub
    have kept : earlier ⊆
        (Publisher.publish Memory.handle config ref.1 ref.2 s).2.state.remoteRefs :=
      fun x member => (now x).2 (.inl (sub member))
    obtain ⟨answers, last⟩ := ih next kept
    refine ⟨.cons answer answers, fun x => (last x).trans ?_⟩
    rw [now x, or_assoc, List.exists_mem_cons_iff]

variable {config}

/-- A release that was run again has converged: it failed only for refs that cannot be published, it
pushed nothing that had been pushed, and the remote has what it had and all that was asked for. -/
structure Converged (config : Config) (m : Memory) (refs : List (Ref.Kind × String))
    (pushed : List String) (results : List (Except Raised Outcome)) (last : Session Memory) :
    Prop where
  fails : List.Forall₂ (fun ref r => (∃ e, r = Except.error e) ↔ ¬ Publishable config m ref)
    refs results
  skips : List.Forall₂ (fun ref r => ref.1.fullRef ref.2 ∈ pushed →
    r = Except.ok ⟨ref.2, ref.1, false, config.dryRun⟩) refs results
  remote : ∀ x, x ∈ last.state.remoteRefs ↔ x ∈ m.remoteRefs ∨
    ∃ ref ∈ refs, Publishable config m ref ∧ x = ref.1.fullRef ref.2

/-- Publishing the refs again when nothing fails, after a run that made some progress with them. -/
theorem Progress.converges {refs : List (Ref.Kind × String)} {before : Session Memory}
    (progress : Progress config m refs before) (serving : Serving m s)
    (remote : s.state.remoteRefs = before.state.remoteRefs) :
    Converged config m refs (pushedRefs before.exchanges)
      (Work.each (publications config refs) s).1 (Work.each (publications config refs) s).2 := by
  have sub : pushedRefs before.exchanges ⊆ s.state.remoteRefs := by
    rw [remote, progress.remote]
    exact List.subset_append_right _ _
  obtain ⟨answers, last⟩ := serving.each config refs sub
  refine ⟨answers.imp ?_, answers.imp ?_, fun x => (last x).trans ?_⟩
  · intro ref r answer
    cases answer with
    | done publishable => simp [publishable]
    | refused unpublishable => simp [unpublishable]
  · intro ref r answer earlier
    cases answer with
    | done _ again => rw [again earlier]
    | refused unpublishable =>
      -- The pushed ref stems from a request, and by injectivity from this one.
      obtain ⟨origin, -, publishable, same⟩ := progress.requested _ earlier
      obtain ⟨kind, name⟩ := Ref.Kind.fullRef_injective same
      exact absurd (Prod.ext kind name ▸ publishable) unpublishable
  · rw [remote, progress.remote, List.mem_append]
    constructor
    · rintro ((old | pushed) | asked)
      · exact .inl old
      · exact .inr (progress.requested x pushed)
      · exact .inr asked
    · rintro (old | asked)
      · exact .inl (.inl old)
      · exact .inr asked

end SecondRun

/-- A release that is run again converges, and pushes nothing again.

Any of the calls of the first run may fail, over any repository in memory. For every row of refs to
publish:

- the first run delivers: each full ref is pushed at most once and none that the remote had, and the
  remote then has what it had and those refs behind, in the order of the pushes;
- if a publisher was created, then every request has a result, and the remote grew by the ref of a
  request exactly if its result says that it was pushed;
- a second run with a new publisher converges once no call fails any more;
- and so does a second run with the same publisher. -/
theorem release_converges {config : Config} (real : config.dryRun = false) (m : Memory)
    (refs : List (Ref.Kind × String)) :
    let first := release Memory.handle config refs (.start m)
    Delivered m first.2 ∧
    (∀ results, first.1 = .ok results → results.length = refs.length ∧
      ∀ i ref r, refs[i]? = some ref → results[i]? = some r →
        (release Memory.handle config (refs.take (i + 1)) (.start m)).2.state.remoteRefs =
          (release Memory.handle config (refs.take i) (.start m)).2.state.remoteRefs ++
            if saysPushed r then [ref.1.fullRef ref.2] else []) ∧
    (∃ results last,
      release Memory.handle config refs (.start (healed first.2.state)) = (.ok results, last) ∧
        Converged config m refs (pushedRefs first.2.exchanges) results last) ∧
    (∀ results, first.1 = .ok results →
      let again := Work.each (publications config refs)
        { first.2 with state := healed first.2.state }
      Converged config m refs (pushedRefs first.2.exchanges) again.1 again.2) := by
  intro first
  have progress := release_progress real m refs
  refine ⟨progress.toDelivered, ?_, ?_, ?_⟩
  · intro results done
    refine ⟨?_, fun i ref r request result => release_grows real done request result⟩
    obtain ⟨t, -, same⟩ := release_created done
    have length := each_length (publications config refs) t
    rw [same, publications, List.length_map] at length
    exact length
  · obtain ⟨t, created, faultless⟩ := create_faultless config
      (s := .start (healed first.2.state)) rfl fun _ => rfl
    have untouched : Untouched _ t := created ▸ create_untouched config _
    have serving : Serving m t := ⟨faultless, (create_ready created).1,
      (create_ready created).2.trans real, untouched.keeps.branches.trans progress.branches,
      untouched.keeps.tags.trans progress.tags⟩
    refine ⟨_, _, ?_, progress.converges serving untouched.keeps.remoteRefs⟩
    rw [release_run, created]
  · intro results done
    obtain ⟨t, created, same⟩ := release_created done
    have underWay : UnderWay config m refs first.2 :=
      (Prod.ext_iff.1 same).2 ▸ (UnderWay.created real created).each (List.Subset.refl refs)
    exact progress.converges (s := { first.2 with state := healed first.2.state })
      ⟨fun _ => rfl, underWay.there, underWay.dryRun, underWay.branches, underWay.tags⟩ rfl

/-- A run in which the user interrupts the first push, for a branch that is asked for twice, a tag
of the same name and a name that no branch has. The first run still pushes the tag and then the
branch, and a second run converges. -/
theorem release_converges_after_interrupt :
    (release Memory.handle ⟨false, 0, ⟨"."⟩, "master", "origin", "release-"⟩
      [(.branch, "release-1.0.0-rc"), (.tag, "release-1.0.0-rc"), (.branch, "release-1.0.0-rc"),
        (.branch, "v1")]
      (.start ⟨["release-1.0.0-rc"], ["release-1.0.0-rc"], ["refs/heads/master"], true, none,
        fun k => if k = .push then [some (.plain (.interrupted ""))] else []⟩)).2.state.remoteRefs
      = ["refs/heads/master", "refs/tags/release-1.0.0-rc", "refs/heads/release-1.0.0-rc"] ∧
    ∃ results last,
      release Memory.handle ⟨false, 0, ⟨"."⟩, "master", "origin", "release-"⟩
        [(.branch, "release-1.0.0-rc"), (.tag, "release-1.0.0-rc"),
          (.branch, "release-1.0.0-rc"), (.branch, "v1")]
        (.start ⟨["release-1.0.0-rc"], ["release-1.0.0-rc"],
          ["refs/heads/master", "refs/tags/release-1.0.0-rc", "refs/heads/release-1.0.0-rc"],
          false, none, fun _ => []⟩) = (.ok results, last) ∧
      Converged ⟨false, 0, ⟨"."⟩, "master", "origin", "release-"⟩
        ⟨["release-1.0.0-rc"], ["release-1.0.0-rc"], ["refs/heads/master"], true, none,
          fun k => if k = .push then [some (.plain (.interrupted ""))] else []⟩
        [(.branch, "release-1.0.0-rc"), (.tag, "release-1.0.0-rc"),
          (.branch, "release-1.0.0-rc"), (.branch, "v1")]
        ["refs/tags/release-1.0.0-rc", "refs/heads/release-1.0.0-rc"] results last := by
  refine ⟨rfl, ?_⟩
  exact (release_converges rfl
    ⟨["release-1.0.0-rc"], ["release-1.0.0-rc"], ["refs/heads/master"], true, none,
      fun k => if k = .push then [some (.plain (.interrupted ""))] else []⟩
    [(.branch, "release-1.0.0-rc"), (.tag, "release-1.0.0-rc"), (.branch, "release-1.0.0-rc"),
      (.branch, "v1")]).2.2.1

end ReleaseRefs.Proofs.Publish
