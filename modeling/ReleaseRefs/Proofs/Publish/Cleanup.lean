import ReleaseRefs.Proofs.Publish.FailedCalls
import ReleaseRefs.Proofs.Publish.Ownership

/-!
# `ReleaseRefs.Proofs.Publish.Cleanup`: which of two failures comes up

A repository that cannot be prepared is given back, and so is the one of a block that is left. Then
two things may go wrong at once: a failure is on its way up, and giving the repository back may fail
too. `failures_cleaned_up` says which of the two is seen in the end, over any handle and however
blocks nest.

- `surfacing` is the failure that goes on up from one cleanup. It is the one that was on its way,
  unless the repository is `Stuck` (`surfacing_keeps_iff`).
- `Arises` says where the failure of a step comes from, and how many blocks there are around that
  place. `Leaves` says what is left of it outside of them: the innermost block cleans up, and the
  others find nothing to give back (`Leaves.block`).
- `perform_eq_error_iff` puts these two together, by induction on how steps nest. Once the
  repository was given back, what a step fails with arises in it (`arises_of_released`).
-/

set_option autoImplicit false

namespace ReleaseRefs.Proofs.Publish

open ReleaseRefs.Publish ReleaseRefs.Publish.Publisher

variable {σ : Type}

/-! ### One cleanup -/

/-- The user asked to stop. -/
def IsInterrupt (r : Raised) : Prop := ∃ m, r.failure = .interrupted m

/-- The repository was not given back so far, and giving it back fails. -/
def Stuck (h : Handle σ) (t : Session σ) (f : Raised) : Prop :=
  t.released = false ∧ (h.answer .close t.state).result = .error f

/-- The failure that goes on up from a cleanup, once a failure has come as far as a session. -/
def surfacing (h : Handle σ) (e : Raised) (t : Session σ) : Raised :=
  match (close h t).1 with
  | .ok _ => e
  | .error f => f

section Cleanups

variable {h : Handle σ} {config : Config} {e f : Raised} {s t : Session σ}

/-- A repository counts as given back even if giving it back has failed. -/
theorem close_released (h : Handle σ) (t : Session σ) : (close h t).2.released = true := by
  rw [close_run]
  split
  · next gone => exact gone
  · rfl

/-- There is nothing to do for a repository that was given back. -/
theorem close_of_released (gone : t.released = true) : close h t = (.ok (), t) := by
  rw [close_run, if_pos gone]

theorem close_eq_error_iff : (close h t).1 = .error f ↔ Stuck h t f := by
  rw [close_run, Stuck]
  cases t.released <;> simp

/-- A repository that was given back hides nothing. -/
theorem surfacing_of_released (gone : t.released = true) : surfacing h e t = e := by
  rw [surfacing, close_of_released gone]

/-- A failure to give the repository back takes the place of the one that was on its way. -/
theorem surfacing_of_stuck (stuck : Stuck h t f) : surfacing h e t = f := by
  rw [surfacing, close_eq_error_iff.2 stuck]

/-- Without a failure to give the repository back, the one that was on its way goes on up. -/
theorem surfacing_of_not_stuck (free : ∀ f, ¬ Stuck h t f) : surfacing h e t = e := by
  unfold surfacing
  split
  · rfl
  · next f failed => exact absurd (close_eq_error_iff.1 failed) (free f)

/-- What is true of a failure is true of the one that goes on up exactly if it is true of the
failure to give the repository back, should there be one. -/
theorem surfacing_keeps_iff {P : Raised → Prop} (holds : P e) :
    P (surfacing h e t) ↔ ∀ f, Stuck h t f → P f := by
  constructor
  · intro kept f stuck
    rwa [surfacing_of_stuck stuck] at kept
  · intro others
    by_cases hidden : ∃ f, Stuck h t f
    · obtain ⟨f, stuck⟩ := hidden
      rw [surfacing_of_stuck stuck]
      exact others f stuck
    · rw [surfacing_of_not_stuck fun f stuck => hidden ⟨f, stuck⟩]
      exact holds

/-- A repository that was opened and cannot be prepared is cleaned up. -/
theorem create_of_unprepared
    (opens : (h.opens config.repoPath config.remote s.state).1 = .ok ())
    (failed : prepare h config (opened h config s) = (.error e, t)) :
    create h config s = (.error (surfacing h e t), (close h t).2) := by
  have opening : Work.rewording (openFailure config)
      (Work.openAt h config.repoPath config.remote) s = (.ok (), opened h config s) := by
    simp [Work.rewording, Work.openAt, opens, opened, Except.mapError]
  rw [create, bind_ok _ opening]
  simp only [releasingOnFailure, failed, surfacing]
  rcases close h t with ⟨_ | _, _⟩ <;> rfl

/-- An interrupt of a preparation does not get another name. -/
theorem PreparationFailure.eq_of_interrupt {c : Call} {e' : Raised}
    (comesUp : PreparationFailure c e e') (interrupt : IsInterrupt e) : e' = e := by
  obtain ⟨m, interrupt⟩ := interrupt
  cases c with
  | checkout branch =>
    cases comesUp with
    | own git => cases interrupt.symm.trans git
    | named git => cases interrupt.symm.trans git
    | foreign => rfl
  | _ => exact comesUp.symm

/-- A block of which a step fails is cleaned up at its end. -/
theorem block_of_error {steps : List (Step σ)}
    (failed : performAll h config steps s = (.error e, t)) :
    perform h config (.block steps) s = (.error (surfacing h e t), (close h t).2) := by
  simp only [perform, closing, map_run_snd, failed, surfacing]
  rcases close h t with ⟨_ | _, _⟩ <;> rfl

/-- At the end of a block without a failure, giving the repository back may still fail. -/
theorem block_of_ok {steps : List (Step σ)} {ys : List Yield}
    (done : performAll h config steps s = (.ok ys, t)) :
    perform h config (.block steps) s =
      ((close h t).1.map fun _ => .all ys, (close h t).2) := by
  simp only [perform, closing, map_run_snd, done]
  rcases close h t with ⟨_ | _, _⟩ <;> rfl

end Cleanups

/-! ### Where a row of steps fails -/

section Rows

variable {h : Handle σ} {config : Config} {e : Raised} {s t u : Session σ}

/-- Steps go on behind one that succeeds. -/
theorem performAll_cons_of_ok {step : Step σ} {steps : List (Step σ)} {y : Yield}
    (done : perform h config step s = (.ok y, t)) :
    performAll h config (step :: steps) s =
      ((performAll h config steps t).1.map (y :: ·), (performAll h config steps t).2) := by
  rw [performAll_cons, done]

/-- Steps stop at one that fails. -/
theorem performAll_cons_of_error {step : Step σ} {steps : List (Step σ)}
    (failed : perform h config step s = (.error e, t)) :
    performAll h config (step :: steps) s = (.error e, t) := by
  rw [performAll_cons, failed]

/-- Steps fail as one of them does, behind others that succeeded. -/
theorem performAll_append_of_error {front rest : List (Step σ)} {step : Step σ} {ys : List Yield}
    (before : performAll h config front s = (.ok ys, t))
    (failed : perform h config step t = (.error e, u)) :
    performAll h config (front ++ step :: rest) s = (.error e, u) := by
  induction front generalizing s ys with
  | nil =>
    cases before
    exact performAll_cons_of_error failed
  | cons first front ih =>
    rcases hp : perform h config first s with ⟨_ | y, v⟩
    · cases (performAll_cons_of_error hp).symm.trans before
    · rw [performAll_cons_of_ok hp] at before
      rcases later : performAll h config front v with ⟨_ | zs, w⟩ <;> rw [later] at before <;>
        cases before
      rw [List.cons_append, performAll_cons_of_ok hp, ih later]
      rfl

/-- Steps that fail do so at one of them, behind others that succeeded. -/
theorem performAll_error_at {steps : List (Step σ)}
    (failed : performAll h config steps s = (.error e, u)) :
    ∃ front step rest ys t, steps = front ++ step :: rest ∧
      performAll h config front s = (.ok ys, t) ∧ perform h config step t = (.error e, u) := by
  induction steps generalizing s with
  | nil => cases failed
  | cons first steps ih =>
    rcases hp : perform h config first s with ⟨_ | y, v⟩
    · cases (performAll_cons_of_error hp).symm.trans failed
      exact ⟨[], first, steps, [], s, rfl, rfl, hp⟩
    · rw [performAll_cons_of_ok hp] at failed
      rcases later : performAll h config steps v with ⟨_ | _, _⟩ <;> rw [later] at failed <;>
        cases failed
      obtain ⟨front, step, rest, ys, t, rfl, before, here⟩ := ih later
      refine ⟨first :: front, step, rest, y :: ys, t, rfl, ?_, here⟩
      rw [performAll_cons_of_ok hp, before]
      rfl

end Rows

/-! ### Blocks around a failure -/

/-- While a step is performed from a session, a failure arises, with the session behind it and the
number of blocks around it. -/
inductive Arises (h : Handle σ) (config : Config) :
    Step σ → Session σ → Raised → Session σ → Nat → Prop where
  | publishing {kind : Ref.Kind} {name : String} {s t : Session σ} {e : Raised}
      (failed : publish h config kind name s = (.error e, t)) :
      Arises h config (.publish kind name) s e t 0
  | closing {s t : Session σ} {e : Raised} (failed : close h s = (.error e, t)) :
      Arises h config .close s e t 0
  | failing (e : Raised) (s : Session σ) : Arises h config (.fail e) s e s 0
  /-- All steps of a block succeed, and then the repository cannot be given back. -/
  | leaving {steps : List (Step σ)} {ys : List Yield} {s t u : Session σ} {e : Raised}
      (done : performAll h config steps s = (.ok ys, t)) (failed : close h t = (.error e, u)) :
      Arises h config (.block steps) s e u 0
  | inside {front rest : List (Step σ)} {step : Step σ} {ys : List Yield} {s t u : Session σ}
      {e : Raised} {depth : Nat} (before : performAll h config front s = (.ok ys, t))
      (arises : Arises h config step t e u depth) :
      Arises h config (.block (front ++ step :: rest)) s e u (depth + 1)

/-- What is left of a failure outside of the blocks around it, and the session behind them. -/
inductive Leaves (h : Handle σ) (e : Raised) (t : Session σ) :
    Nat → Raised → Session σ → Prop where
  | bare : Leaves h e t 0 e t
  | cleaned (depth : Nat) : Leaves h e t (depth + 1) (surfacing h e t) (close h t).2

section Blocks

variable {h : Handle σ} {config : Config} {e r : Raised} {s t u : Session σ} {depth : Nat}
  {step : Step σ}

/-- One block more cleans up, or finds nothing to give back. -/
theorem Leaves.block (leaves : Leaves h e t depth r u) :
    Leaves h e t (depth + 1) (surfacing h r u) (close h u).2 := by
  cases leaves with
  | bare => exact .cleaned 0
  | cleaned depth =>
    -- The innermost block has given the repository back, so this one leaves all as it is.
    have gone := close_released h t
    rw [surfacing_of_released gone, close_of_released gone]
    exact .cleaned (depth + 1)

theorem Leaves.unique {r' : Raised} {u' : Session σ} (leaves : Leaves h e t depth r u)
    (leaves' : Leaves h e t depth r' u') : r = r' ∧ u = u' := by
  cases leaves <;> cases leaves' <;> exact ⟨rfl, rfl⟩

/-- What is done with the answer of a computation does not change its failures. -/
theorem map_run_eq_error_iff {α β : Type} {w : Work σ α} {f : α → β} :
    (w >>= fun a => pure (f a)) s = (.error r, u) ↔ w s = (.error r, u) := by
  rw [map_run_snd, Prod.ext_iff, Prod.ext_iff]
  rcases w s with ⟨_ | _, _⟩ <;> simp [Except.map]

/-- A failure that arises in a step comes out of it, as far as the blocks around it let it. -/
theorem Arises.leaves (arises : Arises h config step s e t depth) :
    ∃ r u, Leaves h e t depth r u ∧ perform h config step s = (.error r, u) := by
  induction arises with
  | publishing failed => exact ⟨_, _, .bare, map_run_eq_error_iff.2 failed⟩
  | closing failed => exact ⟨_, _, .bare, map_run_eq_error_iff.2 failed⟩
  | failing => exact ⟨_, _, .bare, rfl⟩
  | leaving done failed =>
    refine ⟨_, _, .bare, ?_⟩
    rw [block_of_ok done, failed]
    rfl
  | inside before _ ih =>
    obtain ⟨r, u, leaves, failed⟩ := ih
    exact ⟨_, _, leaves.block, block_of_error (performAll_append_of_error before failed)⟩

/-- A step that fails does so with what is left of a failure that arises in it. -/
theorem arises_of_perform {step : Step σ} {s u : Session σ} {r : Raised}
    (failed : perform h config step s = (.error r, u)) :
    ∃ e t depth, Arises h config step s e t depth ∧ Leaves h e t depth r u := by
  match step with
  | .publish kind name => exact ⟨r, u, 0, .publishing (map_run_eq_error_iff.1 failed), .bare⟩
  | .close => exact ⟨r, u, 0, .closing (map_run_eq_error_iff.1 failed), .bare⟩
  | .inspect => cases failed
  | .block steps =>
    -- Either a step of the block fails, with one block less around it, or its end does.
    rcases body : performAll h config steps s with ⟨e | ys, t⟩
    · obtain ⟨front, inner, rest, ys, v, split, before, here⟩ := performAll_error_at body
      have within : inner ∈ steps := by simp [split]
      obtain ⟨e', t', depth, arises, leaves⟩ := arises_of_perform here
      cases (block_of_error body).symm.trans failed
      subst split
      exact ⟨e', t', depth + 1, .inside before arises, leaves.block⟩
    · rw [block_of_ok body] at failed
      rcases back : close h t with ⟨f | _, v⟩ <;> rw [back] at failed <;> cases failed
      exact ⟨_, _, 0, .leaving body back, .bare⟩
  | .caught steps => cases failed
  | .fail e =>
    cases failed
    exact ⟨_, _, 0, .failing _ _, .bare⟩
  | .alter f => cases failed
termination_by step
decreasing_by
  have smaller := List.sizeOf_lt_of_mem within
  rw [Step.block.sizeOf_spec]
  omega

/-- A step fails exactly if a failure arises in it, and then with what is left of that failure
outside of the blocks around it. -/
theorem perform_eq_error_iff :
    perform h config step s = (.error r, u) ↔
      ∃ e t depth, Arises h config step s e t depth ∧ Leaves h e t depth r u := by
  constructor
  · exact arises_of_perform
  · rintro ⟨e, t, depth, arises, leaves⟩
    obtain ⟨r', u', leaves', failed⟩ := arises.leaves
    obtain ⟨rfl, rfl⟩ := leaves.unique leaves'
    exact failed

/-! ### Failures behind a cleanup -/

/-- A repository that was given back stays so. -/
theorem Trail.stays {between : List (Session σ)} (trail : Trail between s t)
    (gone : s.released = true) : t.released = true := by
  refine trail.chain.induction (·.released = true) between
    (fun _ _ next gone => (next.onward.stays gone).1) (fun nonempty => ?_) t
    (List.mem_of_getLast? trail.last)
  have first := Option.some.inj ((List.head?_eq_some_head nonempty).symm.trans trail.first)
  exact first ▸ gone

/-- Where a failure arises, a repository that was given back before still is. -/
theorem Arises.stays (arises : Arises h config step s e t depth) (gone : s.released = true) :
    t.released = true := by
  induction arises with
  | @publishing kind name s t e failed =>
    have kept := failed ▸ publish_released h config kind name s
    exact kept.trans gone
  | @closing s t e failed =>
    have given := failed ▸ close_released h s
    exact given
  | failing => exact gone
  | @leaving steps ys s t u e done failed =>
    have given := failed ▸ close_released h t
    exact given
  | @inside front rest step ys s t u e depth before _ ih =>
    -- The steps before the one that fails are a trail, whatever they do.
    have trail := before ▸ pointsAmong_trail h config front s
    exact ih (trail.stays gone)

/-- Nothing is hidden any more after the repository was given back. -/
theorem arises_of_released (gone : s.released = true)
    (failed : perform h config step s = (.error r, u)) :
    ∃ t depth, Arises h config step s r t depth := by
  obtain ⟨e, t, depth, arises, leaves⟩ := arises_of_perform failed
  cases leaves with
  | bare => exact ⟨_, _, arises⟩
  | cleaned depth =>
    rw [surfacing_of_released (arises.stays gone)]
    exact ⟨t, depth + 1, arises⟩

end Blocks

/-! ### Two failures at once -/

/-- A repository of which no branch can be checked out, and which cannot be given back. -/
def broken (e f : Raised) : Session Memory :=
  .start ⟨[], [], [], false, none, fun k =>
    if k = .checkout then [some e] else if k = .close then [some f] else []⟩

/-- Which of two failures comes up.

Over every handle, whose calls may all fail, with all options and from every session, so at every
point of every run:

- if a repository was opened and cannot be prepared, then the failure of its last call, as one of
  the checkout if it was that call, goes through a cleanup. An interrupt stays one up to there. The
  failure of a step inside a block goes through a cleanup at the end of the block;
- a step fails exactly if a failure arises in it. However many blocks there are around that place,
  what is left of the failure is what the cleanup of the innermost one let through;
- a cleanup lets a failure through as it is unless the repository is still held and giving it back
  fails with another one. So an interrupt comes up as an interrupt unless giving the repository back
  fails with something else. After a cleanup the repository counts as given back, and no later
  failure is hidden.

Nothing is safe from a failure to give the repository back: it hides every other one, before a
publisher exists and in a block. -/
theorem failures_cleaned_up (h : Handle σ) (config : Config) :
    (∀ s t e, (h.opens config.repoPath config.remote s.state).1 = .ok () →
      prepare h config (opened h config s) = (.error e, t) →
      create h config s = (.error (surfacing h e t), (close h t).2) ∧
      t.released = s.released ∧
      ∃ made c e₀, t.exchanges = s.exchanges ++ made ∧ InTurn (preparationPlan config) made ∧
        made.getLast? = some ⟨c, .error e₀⟩ ∧ PreparationFailure c e₀ e ∧
        (IsInterrupt e₀ → e = e₀)) ∧
    (∀ steps s t e, performAll h config steps s = (.error e, t) →
      perform h config (.block steps) s = (.error (surfacing h e t), (close h t).2)) ∧
    (∀ step s r u, perform h config step s = (.error r, u) ↔
      ∃ e t depth, Arises h config step s e t depth ∧ Leaves h e t depth r u) ∧
    (∀ e t, (surfacing h e t = e ↔ ∀ f, Stuck h t f → f = e) ∧
      (IsInterrupt e → (IsInterrupt (surfacing h e t) ↔ ∀ f, Stuck h t f → IsInterrupt f)) ∧
      (close h t).2.released = true) ∧
    (∀ step s r u, s.released = true → perform h config step s = (.error r, u) →
      ∃ t depth, Arises h config step s r t depth) ∧
    ∀ e f,
      (prepare Memory.handle config (opened Memory.handle config (broken e f))).1
        = .error (checkoutFailure config e) ∧
      (create Memory.handle config (broken e f)).1 = .error f ∧
      ∀ steps, (performAll Memory.handle config (.fail e :: steps) (broken e f)).1 = .error e ∧
        (perform Memory.handle config (.block (.fail e :: steps)) (broken e f)).1 = .error f := by
  refine ⟨fun s t e opens failed => ⟨create_of_unprepared opens failed, ?_⟩,
    fun _ _ _ _ => block_of_error, fun _ _ _ _ => perform_eq_error_iff,
    fun e t => ⟨surfacing_keeps_iff (P := (· = e)) rfl, surfacing_keeps_iff, close_released h t⟩,
    fun _ _ _ _ => arises_of_released, fun e f => ⟨rfl, rfl, fun steps => ⟨rfl, rfl⟩⟩⟩
  -- What a preparation fails with is what its last call came to.
  have prepared := failed ▸ prepare_prepared h config (opened h config s)
  obtain ⟨made, trace, held, inTurn, preparation⟩ := prepared.preparation
  cases preparation with
  | failed last comesUp =>
    exact ⟨held, made, _, _, trace, inTurn, last, comesUp, comesUp.eq_of_interrupt⟩

/-- The push is interrupted in a block inside a block, and the repository cannot be given back. Then
the failure to do so comes up, and no interrupt. The outer block does not try again, and a later
interrupt comes up as one. In the same way a checkout that failed comes up as something else. -/
theorem failures_cleaned_up_interrupted_push :
    let config : Config := ⟨false, 0, ⟨"."⟩, "master", "origin", "v"⟩
    let interrupt : Raised := .plain (.interrupted "")
    let stale : Raised := .plain (.fault .os "Stale handle")
    let index : Raised := .plain (.git ⟨.other none false, "Broken index"⟩)
    let s : Session Memory := .start ⟨["release-1.0"], [], [], false, none, fun k =>
      if k = .push then [some interrupt] else if k = .close then [some stale] else []⟩
    let inner : List (Step Memory) := [.publish .branch "release-1.0"]
    (∃ t u, performAll Memory.handle config inner s = (.error interrupt, t) ∧
      IsInterrupt interrupt ∧ ¬ IsInterrupt (surfacing Memory.handle interrupt t) ∧
      perform Memory.handle config (.block inner) s = (.error stale, u) ∧
      Arises Memory.handle config (.block [.inspect, .block inner]) s interrupt t 2 ∧
      perform Memory.handle config (.block [.inspect, .block inner]) s = (.error stale, u) ∧
      u.calls = [.hasLocalBranch "release-1.0", .hasRemoteBranch "release-1.0",
        .push "refs/heads/release-1.0", .close] ∧
      perform Memory.handle config (.block [.fail interrupt]) u = (.error interrupt, u) ∧
      ∃ v depth, Arises Memory.handle config (.block [.fail interrupt]) u interrupt v depth) ∧
    ∃ t u, prepare Memory.handle config (opened Memory.handle config (broken index stale)) =
        (.error (checkoutFailure config index), t) ∧
      create Memory.handle config (broken index stale) = (.error stale, u) ∧
      u.calls = [.checkout "master", .close] := by
  intro config interrupt stale index s inner
  obtain ⟨unprepared, left, nested, cleanup, behind, -⟩ :=
    failures_cleaned_up Memory.handle config
  constructor
  · let t := (publish Memory.handle config .branch "release-1.0" s).2
    let u := (close Memory.handle t).2
    have hidden : ¬ IsInterrupt (surfacing Memory.handle interrupt t) := by
      rw [(cleanup interrupt t).2.1 ⟨"", rfl⟩]
      intro others
      obtain ⟨m, other⟩ := others stale ⟨rfl, rfl⟩
      cases other
    have once : Arises Memory.handle config
        (.block ([] ++ .publish .branch "release-1.0" :: [])) s interrupt t 1 :=
      .inside rfl (.publishing rfl)
    have twice : Arises Memory.handle config
        (.block ([.inspect] ++ .block inner :: [])) s interrupt t 2 := .inside rfl once
    exact ⟨t, u, rfl, ⟨"", rfl⟩, hidden, left inner s t interrupt rfl, twice,
      (nested ..).2 ⟨interrupt, t, 2, twice, .cleaned 1⟩, rfl, rfl,
      behind _ u interrupt u rfl rfl⟩
  · let t := (prepare Memory.handle config (opened Memory.handle config (broken index stale))).2
    have cleaned := (unprepared (broken index stale) t (checkoutFailure config index) rfl rfl).1
    exact ⟨t, _, rfl, cleaned, rfl⟩

end ReleaseRefs.Proofs.Publish
