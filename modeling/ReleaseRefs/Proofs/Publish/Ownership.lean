import Mathlib.Data.List.Chain
import ReleaseRefs.Proofs.Publish.PushSafety

/-!
# `ReleaseRefs.Proofs.Publish.Ownership`: one owner, one release

A publisher owns the handle that it was created with. It has to give it back once, however a run
goes, and to leave it alone from then on. `create_owned` says so of every point of every run, over
any handle: each call may fail, the one that gives the handle back too, and blocks may be entered
again while they are open.

- `points` lists the sessions that a step goes through, from its start to its end. There is one
  behind each call, so no two neighbours have more than one call between them.
- `Next` is all that can happen from one point to the next: nothing, a call on a handle that is
  held, or the call that gives it back. Publishing one ref is a trail of such steps
  (`publish_trail`), and so is every step, by induction on how steps nest (`points_trail`).
- `Owned` is the invariant. It is kept by `Next` (`Owned.next`), and so is the order `Onward`, in
  which a handle that was given back stays so and is not called.
-/

set_option autoImplicit false

namespace ReleaseRefs.Proofs.Publish

open ReleaseRefs.Publish ReleaseRefs.Publish.Publisher

variable {σ : Type}

/-! ### The points of a run -/

section Points

variable (h : Handle σ) (config : Config)

/-- The sessions behind the calls of publishing a ref, as many as are made. -/
def publishStages (kind : Ref.Kind) (name : String) (s : Session σ) : List (Session σ) :=
  [afterLocal h config kind name s, afterRemote h config kind name s,
    afterPush h config kind name s].take
      ((publish h config kind name s).2.exchanges.length - s.exchanges.length)

mutual

/-- The sessions that a step goes through, from its start to its end. -/
def points : Step σ → Session σ → List (Session σ)
  | .publish kind name, s =>
    s :: publishStages h config kind name s ++ [(publish h config kind name s).2]
  | .close, s => [s, (close h s).2]
  | .inspect, s => [s]
  | .block steps, s => pointsAmong steps s ++ [(perform h config (.block steps) s).2]
  | .caught steps, s => pointsAmong steps s
  | .fail _, s => [s]
  | .alter f, s => [s, { s with state := f s.state }]

/-- The sessions that steps go through up to the first that fails. -/
def pointsAmong : List (Step σ) → Session σ → List (Session σ)
  | [], s => [s]
  | step :: steps, s =>
    points step s ++
      match perform h config step s with
      | (.ok _, t) => pointsAmong steps t
      | (.error _, _) => []

end

/-- The sessions that steps go through, each step whatever the earlier ones came to. -/
def pointsEach : List (Step σ) → Session σ → List (Session σ)
  | [], s => [s]
  | step :: steps, s => points h config step s ++ pointsEach steps (perform h config step s).2

end Points

/-! ### From one point to the next -/

/-- What happens from one point of a run to the next. -/
inductive Next : Session σ → Session σ → Prop where
  | silent {s t : Session σ} (same : t.exchanges = s.exchanges) (kept : t.released = s.released) :
      Next s t
  | asks {s t : Session σ} {x : Exchange} (held : s.released = false) (kept : t.released = false)
      (noClose : x.call ≠ .close) (made : t.exchanges = s.exchanges ++ [x]) : Next s t
  | givesBack {s t : Session σ} {r : Except Raised Unit} (held : s.released = false)
      (gone : t.released = true) (made : t.exchanges = s.exchanges ++ [⟨.close, r⟩]) : Next s t

/-- The calls tell who has the handle: there is no call to give it back as long as it is held, and
then there is that one call, as the last one. -/
structure Owned (s : Session σ) : Prop where
  held : s.released = false → .close ∉ s.calls
  gone : s.released = true → ∃ before, s.calls = before ++ [.close] ∧ .close ∉ before

/-- One session comes before another one in a run: the trace only grows, and a handle that was given
back stays so and is not called. -/
structure Onward (s t : Session σ) : Prop where
  grows : s.exchanges <+: t.exchanges
  stays : s.released = true → t.released = true ∧ t.exchanges = s.exchanges

/-- Sessions from one to another one, each with what happens up to the next. -/
structure Trail (between : List (Session σ)) (s t : Session σ) : Prop where
  chain : between.IsChain Next
  first : between.head? = some s
  last : between.getLast? = some t

section Steps

variable {s t u : Session σ}

theorem Next.refl (s : Session σ) : Next s s := .silent rfl rfl

/-- The invariant is kept. -/
theorem Owned.next (owned : Owned s) (next : Next s t) : Owned t := by
  cases next with
  | silent same kept =>
    have calls : t.calls = s.calls := by rw [Session.calls, same, Session.calls]
    refine ⟨fun held => ?_, fun gone => ?_⟩
    · rw [calls]
      exact owned.held (kept ▸ held)
    · rw [calls]
      exact owned.gone (kept ▸ gone)
  | asks held kept noClose made =>
    refine ⟨fun _ => ?_, fun gone => absurd gone (by simp [kept])⟩
    have before := owned.held held
    simp only [Session.calls, made, List.map_append, List.map_singleton, List.mem_append,
      List.mem_singleton]
    rintro (old | new)
    · exact before old
    · exact noClose new.symm
  | givesBack held gone made =>
    refine ⟨fun held => absurd gone (by simp [held]), fun _ => ⟨s.calls, ?_, owned.held held⟩⟩
    simp only [Session.calls, made, List.map_append, List.map_singleton]

/-- Points come in their order. -/
theorem Next.onward (next : Next s t) : Onward s t := by
  cases next with
  | silent same kept => exact ⟨same ▸ List.prefix_rfl, fun gone => ⟨kept.trans gone, same⟩⟩
  | asks held _ _ made => exact ⟨⟨_, made.symm⟩, fun gone => absurd gone (by simp [held])⟩
  | givesBack held _ made => exact ⟨⟨_, made.symm⟩, fun gone => absurd gone (by simp [held])⟩

theorem Onward.trans (first : Onward s t) (second : Onward t u) : Onward s u where
  grows := first.grows.trans second.grows
  stays gone :=
    have ⟨still, same⟩ := first.stays gone
    have ⟨last, same'⟩ := second.stays still
    ⟨last, same'.trans same⟩

instance : Trans (@Onward σ) Onward Onward := ⟨Onward.trans⟩

/-- A trail that stays where it is. -/
theorem Trail.point (s : Session σ) : Trail [s] s s := ⟨.singleton s, rfl, rfl⟩

/-- One point after another. -/
theorem Trail.step (next : Next s t) : Trail [s, t] s t :=
  ⟨.cons_cons next (.singleton t), rfl, rfl⟩

/-- A trail that goes on where another one ended. -/
theorem Trail.append {xs ys : List (Session σ)} (front : Trail xs s t) (back : Trail ys t u) :
    Trail (xs ++ ys) s u where
  chain := by
    refine front.chain.append back.chain fun x isLast y isFirst => ?_
    rw [front.last] at isLast
    rw [back.first] at isFirst
    cases isLast
    cases isFirst
    exact .refl t
  first := by simp [List.head?_append, front.first]
  last := by simp [List.getLast?_append, back.last]

/-- A trail with one point more. -/
theorem Trail.snoc {xs : List (Session σ)} (front : Trail xs s t) (next : Next t u) :
    Trail (xs ++ [u]) s u where
  chain := by
    refine front.chain.append (.singleton u) fun x isLast y isFirst => ?_
    rw [front.last] at isLast
    cases isLast
    cases isFirst
    exact next
  first := by simp [List.head?_append, front.first]
  last := by simp

end Steps

/-! ### Every step is a trail -/

section Trails

variable (h : Handle σ) (config : Config)

/-- To give the handle back is a call the first time, and nothing later. -/
theorem close_next (s : Session σ) : Next s (close h s).2 := by
  rw [close_run]
  split
  · exact .refl s
  · next held => exact .givesBack (by simpa using held) rfl rfl

theorem localCall_ne_close (name : String) (kind : Ref.Kind) :
    localCall config name kind ≠ .close := by
  cases kind <;> simp [localCall]

theorem remoteCall_ne_close (name : String) (kind : Ref.Kind) : remoteCall name kind ≠ .close := by
  cases kind <;> simp [remoteCall]

/-- Publishing a ref goes through its calls one by one, all of them on a handle that is held. -/
theorem publish_trail (kind : Ref.Kind) (name : String) (s : Session σ) :
    Trail (s :: publishStages h config kind name s ++ [(publish h config kind name s).2]) s
      (publish h config kind name s).2 := by
  have looking (there : s.released = false) : Next s (afterLocal h config kind name s) :=
    .asks there there (localCall_ne_close config name kind) rfl
  have asking (there : s.released = false) :
      Next (afterLocal h config kind name s) (afterRemote h config kind name s) :=
    .asks there there (remoteCall_ne_close name kind) rfl
  have pushing (there : s.released = false) :
      Next (afterRemote h config kind name s) (afterPush h config kind name s) :=
    .asks there there (by simp) rfl
  have stages (n : Nat) (calls : (publish h config kind name s).2.exchanges.length
      = s.exchanges.length + n) : publishStages h config kind name s =
        [afterLocal h config kind name s, afterRemote h config kind name s,
          afterPush h config kind name s].take n := by
    rw [publishStages, calls, Nat.add_sub_cancel_left]
  -- Each way to end tells how many calls were made, and that the handle was held for them.
  rcases hp : publish h config kind name s with ⟨r, t⟩
  have published := hp ▸ publish_published h config kind name s
  rw [hp] at stages
  cases published with
  | refused => rw [stages 0 rfl]; exact .step (.refl s)
  | closed => rw [stages 0 rfl]; exact .step (.refl s)
  | localFailed _ there =>
    rw [stages 1 (by simp [afterLocal])]
    exact (Trail.step (looking there)).snoc (.refl _)
  | missing _ there =>
    rw [stages 1 (by simp [afterLocal])]
    exact (Trail.step (looking there)).snoc (.refl _)
  | remoteFailed _ there =>
    rw [stages 2 (by simp [afterRemote, afterLocal])]
    exact ((Trail.step (looking there)).snoc (asking there)).snoc (.refl _)
  | present _ there =>
    rw [stages 2 (by simp [afterRemote, afterLocal])]
    exact ((Trail.step (looking there)).snoc (asking there)).snoc (.silent rfl rfl)
  | pushFailed _ there =>
    rw [stages 3 (by simp [afterPush, beforePush, afterRemote, afterLocal])]
    exact (((Trail.step (looking there)).snoc (asking there)).snoc (pushing there)).snoc (.refl _)
  | pushed _ there =>
    rw [stages 3 (by simp [afterPush, beforePush, afterRemote, afterLocal])]
    exact (((Trail.step (looking there)).snoc (asking there)).snoc (pushing there)).snoc
      (.silent rfl rfl)

-- On the nesting of steps: a block goes along the trail of its steps, and then it gives the handle
-- back wherever they left it.
mutual

/-- The points of a step are a trail from its start to its end. -/
theorem points_trail (step : Step σ) (s : Session σ) :
    Trail (points h config step s) s (perform h config step s).2 := by
  cases step with
  | publish kind name =>
    rw [points, perform, map_run_snd]
    exact publish_trail h config kind name s
  | close =>
    rw [points, perform, map_run_snd]
    exact .step (close_next h s)
  | inspect => exact .point s
  | block steps =>
    rw [points, perform, closing_snd, map_run_snd]
    exact (pointsAmong_trail steps s).snoc (close_next h _)
  | caught steps =>
    rw [points, perform]
    exact pointsAmong_trail steps s
  | fail r => exact .point s
  | alter f => exact .step (.silent rfl rfl)

/-- The points of steps up to the first that fails are a trail. -/
theorem pointsAmong_trail (steps : List (Step σ)) (s : Session σ) :
    Trail (pointsAmong h config steps s) s (performAll h config steps s).2 := by
  match steps with
  | [] => exact .point s
  | step :: steps =>
    have first := points_trail step s
    rw [pointsAmong, performAll_cons]
    rcases hp : perform h config step s with ⟨e | y, t⟩ <;> rw [hp] at first
    -- Behind a step that fails there are no more points.
    · simpa using first
    · exact first.append (pointsAmong_trail steps t)

end

/-- The points of a row of steps are a trail, whatever the steps come to. -/
theorem pointsEach_trail (steps : List (Step σ)) (s : Session σ) :
    Trail (pointsEach h config steps s) s (Work.each (steps.map (perform h config)) s).2 := by
  induction steps generalizing s with
  | nil => exact .point s
  | cons step steps ih => exact (points_trail h config step s).append (ih _)

/-- A publisher that is created holds its handle. -/
theorem create_held {state : σ} {t : Session σ}
    (created : create h config (.start state) = (.ok (), t)) : Owned t := by
  cases prepared_of_create created with
  | ready =>
    refine ⟨fun _ => ?_, fun gone => ?_⟩
    · simp [Session.calls, retriesSet, dryRunSet, checkedOut, opened, Session.start]
    · rw [retriesSet_released] at gone
      cases gone

end Trails

/-- A publisher owns its handle.

For every handle, whose calls may all fail, every publisher that is created with it and every row of
steps, at every point of the run:

- the points go from the created publisher to the end of the run, and from one to the next nothing
  happens, or a call is made on the handle that is held, or the handle is given back;
- as long as the handle is held, no call gave it back. Once it was given back, just one did, and no
  call was made since;
- a handle that was given back stays so at every later point, and is not called;
- then every publication fails without a call and changes nothing. The failure says that the
  publisher is closed if the name is accepted, and else what is wrong with the name. -/
theorem create_owned (h : Handle σ) (config : Config) {state : σ} {t : Session σ}
    (created : create h config (.start state) = (.ok (), t)) (steps : List (Step σ)) :
    let life := pointsEach h config steps t
    (life.head? = some t ∧ life.getLast? = some (run h config steps (.start state)).2 ∧
      life.IsChain Next) ∧
    (∀ u ∈ life, Owned u) ∧
    life.Pairwise Onward ∧
    ∀ (u : Session σ) (kind : Ref.Kind) (name : String), u.released = true →
      (∀ v, Ref.check kind config.tagPrefix name = .ok v →
        publish h config kind name u =
          (.error (.plain (.publish ⟨.closed, "Publisher has been closed", some name⟩)), u)) ∧
      ∀ e, Ref.check kind config.tagPrefix name = .error e →
        publish h config kind name u = (.error e, u) ∧
        ∃ reason message, e.failure = .publish ⟨.invalidName reason, message, some name⟩ := by
  intro life
  have trail : Trail life t (run h config steps (.start state)).2 := by
    rw [run, createThen, bind_ok _ created]
    exact pointsEach_trail h config steps t
  refine ⟨⟨trail.first, trail.last, trail.chain⟩, ?_, ?_, ?_⟩
  · refine trail.chain.induction Owned life (fun _ _ next owned => owned.next next) ?_
    intro nonempty
    have first := Option.some.inj ((List.head?_eq_some_head nonempty).symm.trans trail.first)
    exact first ▸ create_held h config created
  · exact (trail.chain.imp fun _ _ => Next.onward).pairwise
  · intro u kind name gone
    exact ⟨fun v good => publish_closed good gone,
      fun e bad => ⟨publish_refused bad, Ref.check_error bad⟩⟩

/-- A block inside a block, left by an interrupt, with a call to give the handle back that fails:
the outer block does not give it back again, a later publication makes no call, and at every point
the calls tell who has the handle. -/
theorem create_owned_nested_blocks :
    ∃ t, create Memory.handle ⟨true, 0, ⟨"."⟩, "master", "origin", "v"⟩
        (.start ⟨["release-1.0"], [], [], false, none,
          fun k => if k = .close then [some (.plain (.fault .os "Stale handle"))] else []⟩)
        = (.ok (), t) ∧
      (Work.each ([.caught [.block [.publish .branch "release-1.0",
            .block [.fail (.plain (.interrupted ""))]]], .publish .branch "release-1.0"].map
          (perform Memory.handle ⟨true, 0, ⟨"."⟩, "master", "origin", "v"⟩)) t).2.calls =
        [.checkout "master", .setDryRun true, .setMaxRetries 0, .hasLocalBranch "release-1.0",
          .hasRemoteBranch "release-1.0", .push "refs/heads/release-1.0", .close] ∧
      ∀ u ∈ pointsEach Memory.handle ⟨true, 0, ⟨"."⟩, "master", "origin", "v"⟩
          [.caught [.block [.publish .branch "release-1.0",
            .block [.fail (.plain (.interrupted ""))]]], .publish .branch "release-1.0"] t,
        Owned u :=
  ⟨_, rfl, rfl, (@create_owned Memory Memory.handle ⟨true, 0, ⟨"."⟩, "master", "origin", "v"⟩
    ⟨["release-1.0"], [], [], false, none,
      fun k => if k = .close then [some (.plain (.fault .os "Stale handle"))] else []⟩
    _ rfl _).2.1⟩

end ReleaseRefs.Proofs.Publish
