import ReleaseRefs.Proofs.Git.Retries
import ReleaseRefs.Proofs.Publish.Publication

/-!
# `ReleaseRefs.Proofs.Git.Answers`: git matters by its answers only

Whatever git is, and whatever else it could be asked, a publication depends on the answers that it
got. Over another git that gives the same answers, it goes the same way.

- `Repeats` relates computations over two gits: if the second git gives the answers that the first
  one gave, then the second computation does what the first one did. `Repeats.bind` goes through
  computations that are put together, and `Repeats.silent` is for those that leave git alone.
- `attempts_repeats` has the loop around a network command, by induction on the retries that are
  left, and `perform_repeats` all operations of a repository.
- `create_repeats` and `publish_repeats` are about what a publisher does with it.
  `publication_repeats` puts them together.
-/

set_option autoImplicit false

namespace ReleaseRefs.Proofs.Git

open ReleaseRefs.Git ReleaseRefs.Proofs.Publish
open ReleaseRefs.Publish (Call Session Work)
open ReleaseRefs.Publish.Publisher

/-! ### Two gits -/

section Rules

variable {γ δ ς τ α β : Type} (p : Program γ) (q : Program δ)

variable (repo : ς → Repository γ) (onto : ς → δ → τ)

/-- One computation repeats another one over a second git: from any state, if the second git gives
the answers that the first one gave, then the result is the same, and so is the state behind it,
apart from git. -/
def Repeats (w : ExceptT Raised (StateM ς) α) (v : ExceptT Raised (StateM τ) α) : Prop :=
  ∀ s, ∃ xs, Traced p (repo s) xs (repo (w s).2) ∧
    ∀ g h, Told q g xs h → v (onto s g) = ((w s).1, onto (w s).2 h)

variable {p q repo onto} {w : ExceptT Raised (StateM ς) α} {v : ExceptT Raised (StateM τ) α}

/-- Computations that do nothing with git. -/
theorem Repeats.silent (git : ∀ s, (repo (w s).2).git = (repo s).git)
    (actions : ∀ s, (repo (w s).2).actions = (repo s).actions)
    (same : ∀ s g, v (onto s g) = ((w s).1, onto (w s).2 g)) : Repeats p q repo onto w v := by
  intro s
  have nothing : trace [] = [] := rfl
  refine ⟨[], ⟨git s ▸ .nil _, ?_⟩, fun g h answers => ?_⟩
  · rw [actions, nothing, List.append_nil]
  · rw [answers.nil_eq]
    exact same s g

theorem Repeats.pure (a : α) : Repeats p q repo onto (pure a) (pure a) :=
  .silent (fun _ => rfl) (fun _ => rfl) fun _ _ => rfl

/-- One computation after the other: the answers to the second come behind those to the first. -/
theorem Repeats.bind {k : α → ExceptT Raised (StateM ς) β} {l : α → ExceptT Raised (StateM τ) β}
    (first : Repeats p q repo onto w v) (second : ∀ a, Repeats p q repo onto (k a) (l a)) :
    Repeats p q repo onto (w >>= k) (v >>= l) := by
  intro s
  obtain ⟨xs, traced, again⟩ := first s
  -- A failure of the first computation is the end of both.
  rcases run : w s with ⟨e | a, t⟩ <;> rw [run] at traced again
  · rw [bind_error _ run]
    exact ⟨xs, traced, fun g h answers => bind_error _ (again g h answers)⟩
  · obtain ⟨ys, traced', again'⟩ := second a t
    rw [bind_ok _ run]
    refine ⟨xs ++ ys, traced.append traced', fun g h answers => ?_⟩
    obtain ⟨mid, front, back⟩ := answers.split
    rw [bind_ok _ (again g mid front)]
    exact again' mid h back

/-- One computation after the other, even if the first one fails. -/
theorem Repeats.both {w' : ExceptT Raised (StateM ς) β} {v' : ExceptT Raised (StateM τ) β}
    (first : Repeats p q repo onto w v) (second : Repeats p q repo onto w' v') (s : ς) :
    ∃ xs, Traced p (repo s) xs (repo (w' (w s).2).2) ∧ ∀ g h, Told q g xs h →
      ∃ mid, v (onto s g) = ((w s).1, onto (w s).2 mid) ∧
        v' (onto (w s).2 mid) = ((w' (w s).2).1, onto (w' (w s).2).2 h) := by
  obtain ⟨xs, traced, again⟩ := first s
  obtain ⟨ys, traced', again'⟩ := second (w s).2
  refine ⟨xs ++ ys, traced.append traced', fun g h answers => ?_⟩
  obtain ⟨mid, front, back⟩ := answers.split
  exact ⟨mid, again g mid front, again' mid h back⟩

end Rules

/-! ### Repositories -/

section Repositories

variable {γ δ : Type}

/-- The repository with another git. -/
def withGit (s : Repository γ) (g : δ) : Repository δ :=
  ⟨g, s.remote, s.timeout, s.dryRun, s.maxRetries, s.actions, s.events⟩

variable (p : Program γ) (q : Program δ)

/-- One job repeats another one over a second git. -/
abbrev JobRepeats {α : Type} (w : Job γ α) (v : Job δ α) : Prop :=
  Repeats p q (fun s => s) withGit w v

/-- A command that is run once: the answer is all that comes back from git. -/
theorem run_repeats (words : List String) (timeout : Option Value) :
    JobRepeats p q (Repository.run p words timeout) (Repository.run q words timeout) := by
  intro s
  refine ⟨_, ⟨.cons (.ran words timeout) (.nil _), rfl⟩, fun g h answers => ?_⟩
  obtain ⟨same, rfl⟩ := answers.single.ran_eq
  exact Prod.ext (congrArg Except.ok same.symm) rfl

theorem settle_repeats (operation ref : String) (r : Except Failure String) :
    JobRepeats p q (Repository.settle operation ref r) (Repository.settle operation ref r) := by
  refine .silent (fun s => ?_) (fun s => ?_) fun s g => ?_
  · rw [settle_eq]
  · rw [settle_eq]
  · rw [settle_eq, settle_eq]

theorem tell_repeats (e : Log.Event) :
    JobRepeats p q (Repository.tell e) (Repository.tell e) :=
  .silent (fun _ => rfl) (fun _ => rfl) fun _ _ => rfl

theorem pause_repeats (seconds : Nat) :
    JobRepeats p q (Repository.record (.slept seconds)) (Repository.record (.slept seconds)) := by
  intro s
  refine ⟨_, ⟨.cons (.slept seconds) (.nil _), rfl⟩, fun g h answers => ?_⟩
  cases answers.single
  rfl

variable {p q} in
/-- What a repository is like may decide on what comes next, as long as its git does not. -/
theorem Repeats.reading {α : Type} {k : Repository γ → Job γ α} {l : Repository δ → Job δ α}
    (next : ∀ s, ∃ v, JobRepeats p q (k s) v ∧ ∀ g, l (withGit s g) = v) :
    JobRepeats p q (get >>= k) (get >>= l) := by
  intro s
  obtain ⟨v, repeats, same⟩ := next s
  obtain ⟨xs, traced, again⟩ := repeats s
  rw [bind_ok _ (get_run s)]
  refine ⟨xs, traced, fun g h answers => ?_⟩
  rw [bind_ok _ (get_run (withGit s g)), same]
  exact again g h answers

theorem attempts_repeats (operation : String) (words : List String) (left attempt : Nat) :
    JobRepeats p q (Repository.attempts p operation words left attempt)
      (Repository.attempts q operation words left attempt) := by
  -- On the retries that are left.
  induction left generalizing attempt with
  | zero => exact .reading fun s => ⟨_, run_repeats p q words (some s.timeout), fun _ => rfl⟩
  | succ left ih =>
    refine .reading fun s => ⟨_, (run_repeats p q words (some s.timeout)).bind fun r => ?_,
      fun _ => rfl⟩
    rcases r with f | out
    · by_cases transient : isTransient f = true
      · simp only [if_pos transient]
        refine .reading fun s => ⟨_, (tell_repeats p q _).bind fun _ => ?_, fun _ => rfl⟩
        exact (pause_repeats p q _).bind fun _ => ih (attempt + 1)
      · simp only [if_neg transient]
        exact .pure _
    · exact .pure _

/-- A network command goes the same way if all its attempts are answered alike. -/
theorem overNetwork_repeats (operation : String) (words : List String) (ref : String) :
    JobRepeats p q (Repository.overNetwork p operation words ref)
      (Repository.overNetwork q operation words ref) :=
  .reading fun s => ⟨_, (attempts_repeats p q operation words s.maxRetries 1).bind fun r =>
    settle_repeats p q operation ref r, fun _ => rfl⟩

theorem openAt_repeats (place : Place) (remote : String) :
    JobRepeats p q (Repository.openAt p place remote) (Repository.openAt q place remote) := by
  intro s
  refine ⟨_, ⟨.cons (.opened _) (.nil _), rfl⟩, fun g h answers => ?_⟩
  obtain ⟨same, rfl⟩ := answers.single.opened_eq
  unfold Repository.openAt
  simp only [withGit, ← same]

theorem checkout_repeats (branch : String) :
    JobRepeats p q (Repository.checkout p branch) (Repository.checkout q branch) :=
  (run_repeats p q _ none).bind fun r =>
    (settle_repeats p q "checkout" branch r).bind fun _ => tell_repeats p q _

theorem hasLocalBranch_repeats (name : String) :
    JobRepeats p q (Repository.hasLocalBranch p name) (Repository.hasLocalBranch q name) := by
  intro s
  refine ⟨_, ⟨.cons .looked (.nil _), (List.append_nil _).symm⟩, fun g h answers => ?_⟩
  obtain ⟨same, rfl⟩ := answers.single.looked_eq
  unfold Repository.hasLocalBranch
  simp only [withGit, ← same]

theorem tagsOnBranch_repeats (branch : String) :
    JobRepeats p q (Repository.tagsOnBranch p branch) (Repository.tagsOnBranch q branch) :=
  (run_repeats p q _ none).bind fun r =>
    (settle_repeats p q "list_tags" branch r).bind fun _ => .pure _

theorem hasRemoteRef_repeats (kind : Ref.Kind) (name : String) :
    JobRepeats p q (Repository.hasRemoteRef p kind name) (Repository.hasRemoteRef q kind name) := by
  have checked : JobRepeats p q Repository.checkRemote Repository.checkRemote :=
    .silent (fun _ => rfl) (fun _ => rfl) fun _ _ => rfl
  exact checked.bind fun _ => .reading fun _ =>
    ⟨_, (overNetwork_repeats p q _ _ _).bind fun _ => .pure _, fun _ => rfl⟩

theorem push_repeats (ref : String) :
    JobRepeats p q (Repository.push p ref) (Repository.push q ref) :=
  .reading fun _ =>
    ⟨_, (overNetwork_repeats p q _ _ ref).bind fun _ => tell_repeats p q _, fun _ => rfl⟩

theorem setMaxRetries_repeats (n : Int) :
    JobRepeats p q (Repository.setMaxRetries n) (Repository.setMaxRetries n) := by
  refine .silent (fun s => ?_) (fun s => ?_) fun s g => ?_ <;>
    (unfold Repository.setMaxRetries; split <;> rfl)

theorem close_repeats : JobRepeats p q Repository.close Repository.close := by
  intro s
  refine ⟨_, ⟨.cons .closed (.nil _), rfl⟩, fun g h answers => ?_⟩
  cases answers.single
  rfl

/-- Each operation goes the same way if git answers alike. -/
theorem perform_repeats (c : Call) :
    JobRepeats p q (Repository.perform p c) (Repository.perform q c) := by
  cases c with
  | checkout branch => exact checkout_repeats p q branch
  | setDryRun b => exact .silent (fun _ => rfl) (fun _ => rfl) fun _ _ => rfl
  | setMaxRetries n => exact setMaxRetries_repeats p q n
  | hasLocalBranch name => exact hasLocalBranch_repeats p q name
  | hasRemoteBranch name => exact hasRemoteRef_repeats p q .branch name
  | tagsOnBranch branch => exact tagsOnBranch_repeats p q branch
  | hasRemoteTag name => exact hasRemoteRef_repeats p q .tag name
  | push ref => exact push_repeats p q ref
  | close => exact close_repeats p q

end Repositories

/-! ### Sessions -/

section Sessions

variable {γ δ α : Type}

/-- The session with another git. -/
def sessionWithGit (s : Session (Repository γ)) (g : δ) : Session (Repository δ) :=
  ⟨withGit s.state g, s.released, s.exchanges, s.events⟩

variable (p : Program γ) (q : Program δ)

/-- What a publisher does repeats what it does over another git. -/
abbrev WorkRepeats (w : Work (Repository γ) α) (v : Work (Repository δ) α) : Prop :=
  Repeats p q Session.state sessionWithGit w v

theorem call_repeats (c : Call) :
    WorkRepeats p q (Work.call (Repository.handle p) c) (Work.call (Repository.handle q) c) := by
  intro s
  -- The events of a call are kept by the session.
  obtain ⟨xs, traced, again⟩ := perform_repeats p q c { s.state with events := [] }
  refine ⟨xs, ⟨traced.told, traced.actions⟩, fun g h answers => ?_⟩
  have same : Repository.perform q c { withGit s.state g with events := [] } = _ :=
    again g h answers
  simp only [Work.call, Repository.handle, Repository.reply, sessionWithGit, same]
  rfl

theorem telling_repeats (e : Log.Event) : WorkRepeats p q (Work.tell e) (Work.tell e) :=
  .silent (fun _ => rfl) (fun _ => rfl) fun _ _ => rfl

variable {p q}

theorem Repeats.rewording {w : Work (Repository γ) α} {v : Work (Repository δ) α}
    (repeats : WorkRepeats p q w v) (f : Raised → Raised) :
    WorkRepeats p q (Work.rewording f w) (Work.rewording f v) := by
  intro s
  obtain ⟨xs, traced, again⟩ := repeats s
  refine ⟨xs, traced, fun g h answers => ?_⟩
  simp only [Work.rewording, again g h answers]

variable (p q)

/-- A repository that was given back is not asked again. -/
theorem release_repeats :
    WorkRepeats p q (close (Repository.handle p)) (close (Repository.handle q)) := by
  intro s
  have held (g : δ) : (sessionWithGit s g).released = s.released := rfl
  rcases gone : s.released with _ | _
  · obtain ⟨xs, traced, again⟩ := call_repeats p q .close (released s)
    rw [close_run, if_neg (ne_true_of_eq_false gone)]
    refine ⟨xs, traced, fun g h answers => ?_⟩
    rw [close_run, if_neg (ne_true_of_eq_false ((held g).trans gone))]
    exact again g h answers
  · rw [close_run, if_pos gone]
    refine ⟨[], ⟨.nil _, (List.append_nil _).symm⟩, fun g h answers => ?_⟩
    rw [close_run, if_pos ((held g).trans gone), answers.nil_eq]

variable {p q} {w : Work (Repository γ) α} {v : Work (Repository δ) α}

theorem closing_repeats (repeats : WorkRepeats p q w v) :
    WorkRepeats p q (closing (Repository.handle p) w) (closing (Repository.handle q) v) := by
  intro s
  obtain ⟨xs, traced, again⟩ := repeats.both (release_repeats p q) s
  rw [closing_snd]
  refine ⟨xs, traced, fun g h answers => ?_⟩
  obtain ⟨mid, first, second⟩ := again g h answers
  simp only [closing, first, second]
  rcases close (Repository.handle p) (w s).2 with ⟨_ | _, _⟩ <;> rfl

theorem releasingOnFailure_repeats (repeats : WorkRepeats p q w v) :
    WorkRepeats p q (releasingOnFailure (Repository.handle p) w)
      (releasingOnFailure (Repository.handle q) v) := by
  intro s
  -- The repository is given back after a failure only.
  rcases run : w s with ⟨e | a, t⟩
  · obtain ⟨xs, traced, again⟩ := repeats.both (release_repeats p q) s
    rw [run] at traced again
    simp only [releasingOnFailure, run]
    rcases closed : close (Repository.handle p) t with ⟨_ | _, u⟩ <;> rw [closed] at traced again
    all_goals
      refine ⟨xs, traced, fun g h answers => ?_⟩
      obtain ⟨mid, first, second⟩ := again g h answers
      simp only [first, second]
  · obtain ⟨xs, traced, again⟩ := repeats s
    rw [run] at traced again
    simp only [releasingOnFailure, run]
    exact ⟨xs, traced, fun g h answers => by simp only [again g h answers]⟩

end Sessions

/-! ### Publishers -/

section Publishers

variable {γ δ : Type} (p : Program γ) (q : Program δ) (config : Config)

theorem prepare_repeats :
    WorkRepeats p q (prepare (Repository.handle p) config)
      (prepare (Repository.handle q) config) := by
  have announced : WorkRepeats p q (announce config) (announce config) := by
    unfold announce
    split
    · exact telling_repeats p q _
    · exact .pure _
  rw [prepare_eq, prepare_eq]
  exact (telling_repeats p q _).bind fun _ =>
    ((call_repeats p q (.checkout config.defaultBranch)).rewording _).bind fun _ =>
      announced.bind fun _ => (call_repeats p q (.setDryRun config.dryRun)).bind fun _ =>
        call_repeats p q (.setMaxRetries config.maxRetries)

theorem create_repeats :
    WorkRepeats p q (create (Repository.handle p) config)
      (create (Repository.handle q) config) := by
  have opened : WorkRepeats p q
      (Work.openAt (Repository.handle p) config.repoPath config.remote)
      (Work.openAt (Repository.handle q) config.repoPath config.remote) := by
    intro s
    obtain ⟨xs, traced, again⟩ :=
      openAt_repeats p q (.located config.repoPath) config.remote s.state
    refine ⟨xs, traced, fun g h answers => ?_⟩
    have same : Repository.openAt q (.located config.repoPath) config.remote
        (withGit s.state g) = _ := again g h answers
    simp only [Work.openAt, Repository.handle, sessionWithGit, same]
  exact (opened.rewording _).bind fun _ => releasingOnFailure_repeats (prepare_repeats p q config)

variable (kind : Ref.Kind) (name : String)

theorem isLocal_repeats :
    WorkRepeats p q (isLocal (Repository.handle p) config kind name)
      (isLocal (Repository.handle q) config kind name) := by
  cases kind with
  | branch => exact (call_repeats p q (.hasLocalBranch name)).rewording _
  | tag =>
    exact Repeats.rewording ((call_repeats p q (.tagsOnBranch config.defaultBranch)).bind
      fun _ => .pure _) _

theorem isRemote_repeats :
    WorkRepeats p q (isRemote (Repository.handle p) config kind name)
      (isRemote (Repository.handle q) config kind name) := by
  cases kind with
  | branch => exact (call_repeats p q (.hasRemoteBranch name)).rewording _
  | tag => exact (call_repeats p q (.hasRemoteTag name)).rewording _

theorem publish_repeats :
    WorkRepeats p q (publish (Repository.handle p) config kind name)
      (publish (Repository.handle q) config kind name) := by
  have named : WorkRepeats p q (checkName config kind name) (checkName config kind name) :=
    .silent (fun _ => rfl) (fun _ => rfl) fun _ _ => rfl
  have held : WorkRepeats p q (checkOpen name) (checkOpen name) :=
    .silent (fun _ => rfl) (fun _ => rfl) fun _ _ => rfl
  have pushed : WorkRepeats p q (push (Repository.handle p) config kind name)
      (push (Repository.handle q) config kind name) :=
    (telling_repeats p q _).bind fun _ =>
      ((call_repeats p q (.push (kind.fullRef name))).rewording _).bind fun _ =>
        telling_repeats p q _
  refine named.bind fun _ => held.bind fun _ =>
    (isLocal_repeats p q config kind name).bind fun found => ?_
  split
  · refine (isRemote_repeats p q config kind name).bind fun present => ?_
    split
    · exact (telling_repeats p q _).bind fun _ => .pure _
    · exact pushed.bind fun _ => .pure _
  · exact .silent (fun _ => rfl) (fun _ => rfl) fun _ _ => rfl

/-- A publication goes the same way if git answers alike: the answers to its actions are all that it
takes from git. -/
theorem publication_repeats :
    WorkRepeats p q
      (do
        create (Repository.handle p) config
        closing (Repository.handle p) (publish (Repository.handle p) config kind name))
      (do
        create (Repository.handle q) config
        closing (Repository.handle q) (publish (Repository.handle q) config kind name)) :=
  (create_repeats p q config).bind fun _ => closing_repeats (publish_repeats p q config kind name)

end Publishers

end ReleaseRefs.Proofs.Git
