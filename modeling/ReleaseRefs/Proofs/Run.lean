import ReleaseRefs.Publish.Publisher

/-!
# `ReleaseRefs.Proofs.Run`: computations with failures and a state, run from a state

The publisher and the repository both compute with failures over a state. The lemmas here say what
such a computation gives when it is run: `bind_eq` for one computation after another, with
`bind_ok` and `bind_error` for a first one whose result is known. `ok_of_toOption` is for results
that are computed.
-/

set_option autoImplicit false

namespace ReleaseRefs.Proofs

variable {ε ς α β : Type}

/-- The second computation goes on from where the first one succeeded. A failure of the first is
the result of both. -/
theorem bind_eq (w : ExceptT ε (StateM ς) α) (f : α → ExceptT ε (StateM ς) β) (s : ς) :
    (w >>= f) s = match w s with
      | (.ok a, t) => f a t
      | (.error e, t) => (.error e, t) := by
  change (ExceptT.bindCont f (w s).1) (w s).2 = _
  rcases w s with ⟨_ | _, _⟩ <;> rfl

/-- After a first computation that succeeds, the second one runs. -/
theorem bind_ok {w : ExceptT ε (StateM ς) α} (f : α → ExceptT ε (StateM ς) β) {s t : ς} {a : α}
    (h : w s = (.ok a, t)) : (w >>= f) s = f a t := by
  rw [bind_eq, h]

/-- After a first computation that fails, the second one does not run. -/
theorem bind_error {w : ExceptT ε (StateM ς) α} (f : α → ExceptT ε (StateM ς) β) {s t : ς} {e : ε}
    (h : w s = (.error e, t)) : (w >>= f) s = (.error e, t) := by
  rw [bind_eq, h]

/-- A computation that cannot fail succeeds. -/
theorem lift_run (w : StateM ς α) (s : ς) :
    (ExceptT.lift w : ExceptT ε (StateM ς) α) s = (.ok (w s).1, (w s).2) := rfl

/-- A result that is found as an option is one. -/
theorem ok_of_toOption {x : Except ε α} {a : α} (h : x.toOption = some a) : x = .ok a := by
  cases x with
  | ok b => exact congrArg Except.ok (Option.some.inj h)
  | error e => cases h

end ReleaseRefs.Proofs
