import Mathlib.Data.List.Forall2
import ReleaseRefs.Proofs.Publish.Publication

/-!
# `ReleaseRefs.Proofs.Publish.Simulation`: one publisher over two handles

A publisher sees a repository only through what it answers. If two handles agree on the questions
that a publisher asks, then the publisher does the same over both.

- `Linked` relates two sessions: their states are related, and both were given back or neither.
- `Same` relates two computations: from linked sessions they have one result and end in linked
  sessions. Answers satisfy a condition, which the computations behind them may rely on.
- `Same.bind` and the other rules go along the way a computation is built.
- `Agree` lists what has to hold of two handles. Then a ref is published over both with the same
  result (`publish_same`), and so is a whole row of demands met (`run_same`).
-/

set_option autoImplicit false

namespace ReleaseRefs.Proofs.Publish

open ReleaseRefs.Publish ReleaseRefs.Publish.Publisher

variable {σ τ : Type}

/-- Two sessions with related states, both given back or neither. -/
structure Linked (rel : σ → τ → Prop) (s : Session σ) (t : Session τ) : Prop where
  states : rel s.state t.state
  released : t.released = s.released

/-- Two computations that have the same result from linked sessions, with an answer that satisfies
a condition, and that end in linked sessions. -/
structure Ends {α : Type} (rel : σ → τ → Prop) (good : α → Prop) (r : Except Raised α × Session σ)
    (q : Except Raised α × Session τ) : Prop where
  result : q.1 = r.1
  linked : Linked rel r.2 q.2
  answers : ∀ a, r.1 = .ok a → good a

/-- Two computations that do the same from linked sessions. -/
def Same {α : Type} (rel : σ → τ → Prop) (good : α → Prop) (w : Work σ α) (v : Work τ α) : Prop :=
  ∀ s t, Linked rel s t → Ends rel good (w s) (v t)

/-! ### Rules -/

section Rules

variable {α β : Type} {rel : σ → τ → Prop} {good : α → Prop} {fine : β → Prop}

/-- A value. -/
theorem Same.pure {a : α} (h : good a) : Same rel good (Pure.pure a) (Pure.pure a) :=
  fun _ _ linked => ⟨rfl, linked, fun _ same => Except.ok.inj same ▸ h⟩

/-- A failure. -/
theorem Same.throw (e : Raised) :
    Same rel good (throw e : Work σ α) (throw e : Work τ α) :=
  fun _ _ linked => ⟨rfl, linked, nofun⟩

/-- Two computations that do the same, one after the other. The second may rely on what holds of the
answers of the first. -/
theorem Same.bind {w : Work σ α} {v : Work τ α} {f : α → Work σ β} {g : α → Work τ β}
    (first : Same rel good w v) (second : ∀ a, good a → Same rel fine (f a) (g a)) :
    Same rel fine (w >>= f) (v >>= g) := by
  intro s t linked
  obtain ⟨result, next, answers⟩ := first s t linked
  rw [bind_eq, bind_eq]
  -- The first two fail alike, or they give one answer and the second two go on from there.
  rcases hw : w s with ⟨e | a, s'⟩ <;> rcases hv : v t with ⟨e' | a', t'⟩ <;>
    rw [hw, hv] at result <;> rw [hw] at answers <;> rw [hw, hv] at next
  · obtain rfl := Except.error.inj result
    exact ⟨rfl, next, nofun⟩
  · cases result
  · cases result
  · obtain rfl := Except.ok.inj result
    exact second _ (answers _ rfl) s' t' next

theorem Same.tell (e : Log.Event) :
    Same rel (fun _ => True) (Work.tell e : Work σ Unit) (Work.tell e) :=
  fun _ _ linked => ⟨rfl, ⟨linked.states, linked.released⟩, fun _ _ => trivial⟩

/-- Failures that are reworded alike. -/
theorem Same.rewording {w : Work σ α} {v : Work τ α} (f : Raised → Raised)
    (same : Same rel good w v) : Same rel good (Work.rewording f w) (Work.rewording f v) := by
  intro s t linked
  obtain ⟨result, next, answers⟩ := same s t linked
  refine ⟨congrArg (Except.mapError f) result, next, fun a answer => answers a ?_⟩
  have reworded : (w s).1.mapError f = .ok a := answer
  rcases hw : (w s).1 with e | b <;> rw [hw] at reworded
  · cases reworded
  · exact reworded

/-- Computations of two rows that do the same one by one, whatever the earlier ones come to. -/
theorem Same.each {ws : List (Work σ α)} {vs : List (Work τ α)}
    (same : List.Forall₂ (Same rel good) ws vs) (s : Session σ) (t : Session τ)
    (linked : Linked rel s t) :
    (Work.each vs t).1 = (Work.each ws s).1 ∧ Linked rel (Work.each ws s).2 (Work.each vs t).2 := by
  induction same generalizing s t with
  | nil => exact ⟨rfl, linked⟩
  | cons head _ ih =>
    obtain ⟨result, next, -⟩ := head s t linked
    obtain ⟨results, last⟩ := ih _ _ next
    refine ⟨?_, last⟩
    simp only [Work.each, result, results]

end Rules

/-! ### Handles that agree -/

/-- What has to hold of two handles so that publishers cannot tell them apart. A ref that was found
locally is owned, and the handles agree on pushes of such refs. -/
structure Agree (h : Handle σ) (k : Handle τ) (config : Config) (rel : σ → τ → Prop)
    (owned : Ref.Kind → String → Prop) : Prop where
  isLocal : ∀ kind name v, Ref.check kind config.tagPrefix name = .ok v →
    Same rel (fun found => found = true → owned kind name)
      (isLocal h config kind name) (isLocal k config kind name)
  isRemote : ∀ kind name,
    Same rel (fun _ => True) (isRemote h config kind name) (isRemote k config kind name)
  push : ∀ kind name, owned kind name →
    Same rel (fun _ => True) (Work.call h (.push (kind.fullRef name)))
      (Work.call k (.push (kind.fullRef name)))
  close : Same rel (fun _ => True) (Work.call h .close) (Work.call k .close)

section Agreeing

variable {h : Handle σ} {k : Handle τ} {config : Config} {rel : σ → τ → Prop}
  {owned : Ref.Kind → String → Prop} (agree : Agree h k config rel owned)

/-- A name is accepted by both or by neither. -/
theorem checkName_same (kind : Ref.Kind) (name : String) :
    Same rel (fun _ => ∃ v, Ref.check kind config.tagPrefix name = .ok v)
      (checkName config kind name) (checkName config kind name) := by
  intro s t linked
  unfold checkName
  cases good : Ref.check kind config.tagPrefix name with
  | error e => exact ⟨rfl, linked, nofun⟩
  | ok v => exact ⟨rfl, linked, fun _ _ => ⟨v, rfl⟩⟩

/-- Both repositories were given back, or neither. -/
theorem checkOpen_same (name : String) :
    Same rel (fun _ => True) (checkOpen name : Work σ Unit) (checkOpen name) := by
  intro s t linked
  refine ⟨?_, linked, fun _ _ => trivial⟩
  simp only [checkOpen, linked.released]

include agree

/-- A ref is published over both handles with the same result. -/
theorem publish_same (kind : Ref.Kind) (name : String) :
    Same rel (fun _ => True) (publish h config kind name) (publish k config kind name) := by
  -- Along the text of `publish`: what was answered so far decides how both go on.
  refine .bind (checkName_same kind name) fun _ ⟨v, good⟩ => ?_
  refine .bind (checkOpen_same name) fun _ _ => ?_
  refine .bind (agree.isLocal kind name v good) fun found owned => ?_
  cases found with
  | false => exact .throw _
  | true =>
    refine .bind (agree.isRemote kind name) fun present _ => ?_
    cases present with
    | true => exact .bind (.tell _) fun _ _ => .pure trivial
    | false =>
      refine .bind ?_ fun _ (_ : True) => .pure trivial
      refine .bind (.tell _) fun _ _ => ?_
      refine .bind (.rewording _ (agree.push kind name (owned rfl))) fun _ _ => ?_
      exact .tell _

/-- Both repositories are given back alike. -/
theorem close_same : Same rel (fun _ => True) (close h) (close k) := by
  intro s t linked
  rw [close_run, close_run, linked.released]
  split
  · exact ⟨rfl, linked, fun _ _ => trivial⟩
  · exact agree.close (released s) (released t) ⟨linked.states, rfl⟩

end Agreeing

/-! ### Runs -/

/-- What a caller asks of a publisher. -/
inductive Demand where
  | publish (kind : Ref.Kind) (name : String)
  | close

/-- The step of a run that meets a demand. -/
def Demand.step : Demand → Step σ
  | .publish kind name => .publish kind name
  | .close => .close

section Demands

variable {h : Handle σ} {k : Handle τ} {config : Config} {rel : σ → τ → Prop}
  {owned : Ref.Kind → String → Prop} (agree : Agree h k config rel owned)

include agree

/-- A demand is met over both handles with the same result. -/
theorem demand_same (demand : Demand) :
    Same rel (fun _ => True) (perform h config demand.step) (perform k config demand.step) := by
  cases demand with
  | publish kind name =>
    simp only [Demand.step, perform]
    exact .bind (publish_same agree kind name) fun _ _ => .pure trivial
  | close =>
    simp only [Demand.step, perform]
    exact .bind (close_same agree) fun _ _ => .pure trivial

/-- Once a publisher was created over both handles, a run has the same results over both. -/
theorem run_same (demands : List Demand) {s s' : Session σ} {t t' : Session τ}
    (created : create h config s = (.ok (), s')) (created' : create k config t = (.ok (), t'))
    (linked : Linked rel s' t') :
    ∃ ys, (run h config (demands.map Demand.step) s).1 = .ok ys ∧
      (run k config (demands.map Demand.step) t).1 = .ok ys ∧
      Linked rel (run h config (demands.map Demand.step) s).2
        (run k config (demands.map Demand.step) t).2 := by
  have rows : List.Forall₂ (Same rel fun _ => True)
      ((demands.map Demand.step).map (perform h config))
      ((demands.map Demand.step).map (perform k config)) := by
    rw [List.map_map, List.map_map, List.forall₂_map_left_iff, List.forall₂_map_right_iff]
    exact List.forall₂_same.2 fun demand _ => demand_same agree demand
  obtain ⟨results, last⟩ := Same.each rows s' t' linked
  rw [run, createThen, bind_ok _ created, lift_run, run, createThen, bind_ok _ created', lift_run]
  exact ⟨_, rfl, congrArg Except.ok results, last⟩

end Demands

end ReleaseRefs.Proofs.Publish
