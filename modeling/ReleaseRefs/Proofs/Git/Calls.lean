import ReleaseRefs.Proofs.Git.Deeds
import ReleaseRefs.Proofs.Publish.Publication

/-!
# `ReleaseRefs.Proofs.Git.Calls`: what a publisher's calls do with git

The publisher reaches the repository through a handle. Each of its calls is an operation of the
repository with the events taken away before and after it, so that the deeds are those of the
operation.

- `answer_checkout_did`, `answer_local_did`, `answer_remote_tries`, `answer_push_tries` and
  `answer_close_did` have the deeds of a call together with what its answer says about them.
- `Ready` says that the repository was told what the configuration says. `prepared_traced`: the
  preparation of an opened repository is one checkout, and leaves it ready.
-/

set_option autoImplicit false

namespace ReleaseRefs.Proofs.Git

open ReleaseRefs.Git ReleaseRefs.Proofs.Publish
open ReleaseRefs.Publish (Session)

/-- The deed by which a ref is looked for in the local repository, and the names that it yields. -/
inductive LookUp (config : Config) :
    Ref.Kind → Deed → Except Failure (List String) → Prop where
  | branch (r : Except Failure (List String)) : LookUp config .branch (.looked r) r
  | tag (r : Except Failure String) :
      LookUp config .tag
        (.ran ["tag", "--sort=-v:refname", "--merged", config.defaultBranch] none r)
        (r.map Repository.namesIn)

section Repositories

variable {γ : Type} {p : Program γ} {s t : Repository γ} {xs : List Deed}

/-! ### Calls -/

section Calls

/-- Events that are taken away before and after an operation are no deeds. -/
theorem Did.of_quiet (did : Did p { s with events := [] } xs t) :
    Did p s xs { t with events := [] } :=
  ⟨⟨did.told, did.actions⟩, did.remote, did.timeout, did.dryRun, did.maxRetries⟩

variable (p) (s)

/-- A checkout is one command. -/
theorem answer_checkout_did (branch : String) :
    ∃ c, Did p s [.ran ["checkout", branch] none c]
        ((Repository.handle p).answer (.checkout branch) s).state ∧
      (((Repository.handle p).answer (.checkout branch) s).result = .ok () ↔ ∃ out, c = .ok out) :=
    by
  obtain ⟨did, result⟩ := checkout_did p { s with events := [] } branch
  exact ⟨_, Did.of_quiet did, result⟩

/-- Pushes are simulated from now on, or not. -/
theorem answer_setDryRun_eq (b : Bool) :
    (Repository.handle p).answer (.setDryRun b) s
      = ⟨.ok (), [], { s with dryRun := b, events := [] }⟩ := rfl

/-- Failed commands are tried again so often from now on. -/
theorem answer_setMaxRetries_eq {n : Int} (positive : 0 ≤ n) :
    (Repository.handle p).answer (.setMaxRetries n) s
      = ⟨.ok (), [], { s with maxRetries := n.toNat, events := [] }⟩ := by
  have set : Repository.perform p (.setMaxRetries n) { s with events := [] }
      = (.ok (), { s with maxRetries := n.toNat, events := [] }) :=
    if_neg (Int.not_lt.2 positive)
  show Repository.reply p (.setMaxRetries n) s = _
  simp only [Repository.reply, set]

/-- The local look-up of a ref is one deed. -/
theorem answer_local_did (config : Config) (kind : Ref.Kind) (name : String) :
    ∃ x r, Did p s [x] ((Repository.handle p).answer (localCall config name kind) s).state ∧
      LookUp config kind x r ∧
      ((∃ f e, r = .error f ∧
          ((Repository.handle p).answer (localCall config name kind) s).result = .error e) ∨
        ∃ names a, r = .ok names ∧
          ((Repository.handle p).answer (localCall config name kind) s).result = .ok a ∧
          isFound config name kind a = names.contains name) := by
  cases kind with
  | branch =>
    obtain ⟨did, ends⟩ := hasLocalBranch_did p { s with events := [] } name
    refine ⟨_, _, Did.of_quiet did, .branch _, ?_⟩
    rcases ends with ⟨f, e, failed, result⟩ | ⟨names, listed, result⟩
    · exact .inl ⟨f, e, failed, result⟩
    · exact .inr ⟨names, _, listed, result, rfl⟩
  | tag =>
    obtain ⟨did, ends⟩ := tagsOnBranch_did p { s with events := [] } config.defaultBranch
    refine ⟨_, _, Did.of_quiet did, .tag _, ?_⟩
    rcases ends with ⟨f, e, failed, result⟩ | ⟨out, printed, result⟩
    · exact .inl ⟨f, e, by rw [failed]; rfl, result⟩
    · exact .inr ⟨_, _, by rw [printed]; rfl, result, rfl⟩

/-- The remote look-up of a ref is `ls-remote` with retries, unless the remote is refused. -/
theorem answer_remote_tries (kind : Ref.Kind) (name : String) :
    (∃ d e, danger? s.remote = some d ∧
      ((Repository.handle p).answer (remoteCall name kind) s).result = .error e ∧
      Did p s [] ((Repository.handle p).answer (remoteCall name kind) s).state) ∨
    ∃ count xs r, count ≤ s.maxRetries + 1 ∧
      Tries (listWords kind s.remote (kind.fullRef name)) s.timeout count xs r ∧
      Did p s xs ((Repository.handle p).answer (remoteCall name kind) s).state ∧
      ((∃ f e, r = .error f ∧
          ((Repository.handle p).answer (remoteCall name kind) s).result = .error e) ∨
        ∃ out a, r = .ok out ∧
          ((Repository.handle p).answer (remoteCall name kind) s).result = .ok a ∧
          isPresent name kind a = Repository.listingHas out (kind.fullRef name)) := by
  have ends := hasRemoteRef_did p { s with events := [] } kind name
  -- Both kinds ask by one operation. The kind only says which call stands for it.
  cases kind
  all_goals
    rcases ends with ⟨d, e, danger, refused⟩ | ⟨count, xs, r, -, bound, tries, did, ends⟩
    · refine .inl ⟨d, e, danger, congrArg Prod.fst refused, ?_⟩
      have did := Did.refl (p := p) { s with events := [] }
      exact Did.of_quiet (congrArg Prod.snd refused ▸ did)
    · refine .inr ⟨count, xs, r, bound, tries, Did.of_quiet did, ?_⟩
      rcases ends with ⟨f, e, failed, result⟩ | ⟨out, printed, result⟩
      · exact .inl ⟨f, e, failed, result⟩
      · exact .inr ⟨out, _, printed, result, rfl⟩

/-- A push is the push command with retries. -/
theorem answer_push_tries (ref : String) :
    ∃ count xs r, count ≤ s.maxRetries + 1 ∧
      Tries (Repository.pushWords s.dryRun s.remote ref) s.timeout count xs r ∧
      Did p s xs ((Repository.handle p).answer (.push ref) s).state ∧
      (((Repository.handle p).answer (.push ref) s).result = .ok () ↔ ∃ out, r = .ok out) := by
  obtain ⟨count, xs, r, bound, tries, did, ends⟩ := push_did p { s with events := [] } ref
  exact ⟨count, xs, r, bound, tries, Did.of_quiet did, ends⟩

/-- To give the repository back is a deed, and never fails. -/
theorem answer_close_did :
    Did p s [.closed] ((Repository.handle p).answer .close s).state ∧
      ((Repository.handle p).answer .close s).result = .ok () :=
  ⟨Did.of_quiet (close_did p _).1, rfl⟩

end Calls

/-! ### Preparation -/

/-- The repository was told what the configuration says. -/
structure Ready (config : Config) (timeout : Value) (s : Repository γ) : Prop where
  remote : s.remote = config.remote
  timeout : s.timeout = timeout
  dryRun : s.dryRun = config.dryRun
  maxRetries : (s.maxRetries : Int) = config.maxRetries

/-- Deeds leave the repository ready. -/
theorem Did.ready {config : Config} {timeout : Value} (did : Did p s xs t)
    (ready : Ready config timeout s) : Ready config timeout t where
  remote := did.remote.trans ready.remote
  timeout := did.timeout.trans ready.timeout
  dryRun := did.dryRun.trans ready.dryRun
  maxRetries := by rw [did.maxRetries, ready.maxRetries]

section Preparation

variable (p) {config : Config} {s t : Session (Repository γ)}

/-- Once prepared, a repository knows the mode and the number of retries. -/
theorem retriesSet_state (retries : 0 ≤ config.maxRetries) :
    (retriesSet (Repository.handle p) config s).state =
      { (checkedOut (Repository.handle p) config s).state with
          dryRun := config.dryRun, maxRetries := config.maxRetries.toNat, events := [] } := by
  rw [retriesSet, asked_state, answer_setMaxRetries_eq p _ retries, dryRunSet, asked_state,
    answer_setDryRun_eq, announced_state]

/-- The preparation of an opened repository is one checkout. If it succeeds, the repository is
ready. -/
theorem prepared_traced (retries : 0 ≤ config.maxRetries) (remote : s.state.remote = config.remote)
    {r : Except Raised Unit} (prepared : Prepared (Repository.handle p) config s (r, t)) :
    ∃ c, Traced p s.state [.ran ["checkout", config.defaultBranch] none c] t.state ∧
      t.released = s.released ∧
      ((∃ f e, c = .error f ∧ r = .error e) ∨
        ∃ out, c = .ok out ∧ r = .ok () ∧ Ready config s.state.timeout t.state) := by
  obtain ⟨c, did, ends⟩ := answer_checkout_did p s.state config.defaultBranch
  have checkedOut : Did p s.state _ (checkedOut (Repository.handle p) config s).state := did
  cases prepared with
  | checkoutFailed failed =>
    cases c with
    | error f => exact ⟨_, did.toTraced, rfl, .inl ⟨f, _, rfl, rfl⟩⟩
    | ok out => cases failed.symm.trans (ends.2 ⟨out, rfl⟩)
  | dryRunFailed _ failed => cases failed
  | retriesFailed _ _ failed =>
    rw [answer_setMaxRetries_eq p _ retries] at failed
    cases failed
  | ready checkout =>
    obtain ⟨out, rfl⟩ := ends.1 checkout
    refine ⟨_, ?_, retriesSet_released _ _ _, .inr ⟨out, rfl, rfl, ?_⟩⟩ <;>
      rw [retriesSet_state p retries]
    · exact ⟨checkedOut.told, checkedOut.actions⟩
    · exact ⟨checkedOut.remote.trans remote, checkedOut.timeout, rfl, Int.toNat_of_nonneg retries⟩

/-- An open repository is given back by one deed, which never fails. -/
theorem close_traced (there : s.released = false) :
    Did p s.state [.closed] (Publish.Publisher.close (Repository.handle p) s).2.state ∧
      (Publish.Publisher.close (Repository.handle p) s).1 = .ok () := by
  rw [close_run, there, if_neg Bool.false_ne_true]
  exact answer_close_did p s.state

/-- The ends of opening and preparing a repository, each with its deeds. If the preparation fails,
then the repository is given back. -/
theorem create_traced (retries : 0 ≤ config.maxRetries) (there : s.released = false) :
    ∃ xs, Traced p s.state xs (Publish.Publisher.create (Repository.handle p) config s).2.state ∧
      ((∃ f e, xs = [.opened config.repoPath (.error f)] ∧
          (Publish.Publisher.create (Repository.handle p) config s).1 = .error e) ∨
        (∃ f e, xs = [.opened config.repoPath (.ok ()),
            .ran ["checkout", config.defaultBranch] none (.error f), .closed] ∧
          (Publish.Publisher.create (Repository.handle p) config s).1 = .error e) ∨
        ∃ out, xs = [.opened config.repoPath (.ok ()),
            .ran ["checkout", config.defaultBranch] none (.ok out)] ∧
          (Publish.Publisher.create (Repository.handle p) config s).1 = .ok () ∧
          (Publish.Publisher.create (Repository.handle p) config s).2.released = false ∧
          Ready config s.state.timeout
            (Publish.Publisher.create (Repository.handle p) config s).2.state) := by
  obtain ⟨o, opening, remote, timeout, opens⟩ :=
    openAt_traced p s.state config.repoPath config.remote
  have prepare {r : Except Raised Unit} {t : Session (Repository γ)}
      (prepared : Prepared (Repository.handle p) config
        (opened (Repository.handle p) config s) (r, t)) :=
    prepared_traced p retries remote prepared
  have created := create_created (Repository.handle p) config s
  generalize Publish.Publisher.create (Repository.handle p) config s = c at created
  -- What git answered to the opening and to the checkout fits one end only.
  cases created with
  | unopened failed =>
    rcases opens with ⟨f, e, rfl, -⟩ | ⟨-, ok⟩
    · exact ⟨_, opening, .inl ⟨f, _, rfl, rfl⟩⟩
    · cases ok.symm.trans failed
  | unprepared ok prepared =>
    rcases opens with ⟨f, e, -, failed⟩ | ⟨rfl, -⟩
    · cases ok.symm.trans failed
    · obtain ⟨c, checkout, released, ends⟩ := prepare prepared
      rcases ends with ⟨f, e, rfl, -⟩ | ⟨out, -, ok, -⟩
      · obtain ⟨closed, closes⟩ := close_traced p (released.trans there)
        simp only [closes]
        exact ⟨_, (opening.append checkout).append closed.toTraced,
          .inr (.inl ⟨f, _, rfl, rfl⟩)⟩
      · cases ok
  | ready ok prepared =>
    rcases opens with ⟨f, e, -, failed⟩ | ⟨rfl, -⟩
    · cases ok.symm.trans failed
    · obtain ⟨c, checkout, released, ends⟩ := prepare prepared
      rcases ends with ⟨f, e, -, failed⟩ | ⟨out, rfl, -, ready⟩
      · cases failed
      · exact ⟨_, opening.append checkout,
          .inr (.inr ⟨out, rfl, rfl, released.trans there, timeout ▸ ready⟩)⟩

end Preparation

end Repositories

end ReleaseRefs.Proofs.Git
