import ReleaseRefs.Git.Repository
import ReleaseRefs.Proofs.Run

/-!
# `ReleaseRefs.Proofs.Git.Deeds`: what each operation does with git

The trace of a repository has the commands that were run, but not what git answered, and no look at
the branches. Here each operation is described by a row of deeds, which have both.

- `Deed` is something done with git, with the answer. `Told` says that git gives the answers of a
  row of deeds on its way from one state to another.
- `Traced` says that just a row of deeds was done between two states of a repository, and `Did` that
  nothing else about the repository changed.
- `Tries` is the row of deeds of one network command: the same command over and over, with a pause
  after each failure that may pass.
- There is one lemma for each operation: `openAt_traced`, `checkout_did`, `hasLocalBranch_did`,
  `tagsOnBranch_did`, `hasRemoteRef_did`, `push_did` and `close_did`. The two network commands rest
  on `attempts_tries`, an induction on the retries that are left.
-/

set_option autoImplicit false

namespace ReleaseRefs.Proofs.Git

open ReleaseRefs.Git

/-! ### Deeds -/

/-- Something done with git, with what git answered. -/
inductive Deed where
  | opened (path : Path) (r : Except Failure Unit)
  /-- A look at the branches. -/
  | looked (r : Except Failure (List String))
  | ran (words : List String) (timeout : Option Value) (r : Except Failure String)
  | slept (seconds : Nat)
  | closed

/-- What the trace of a repository has of a deed. -/
def Deed.action? : Deed → Option Action
  | .opened path _ => some (.opened path)
  | .looked _ => none
  | .ran words timeout _ => some (.ran words timeout)
  | .slept seconds => some (.slept seconds)
  | .closed => some .closed

/-- The trace of a row of deeds. -/
def trace (xs : List Deed) : List Action := xs.filterMap Deed.action?

theorem trace_append (xs ys : List Deed) : trace (xs ++ ys) = trace xs ++ trace ys :=
  List.filterMap_append

section Repositories

variable {γ : Type} (p : Program γ)

/-- In a state, git gives the answer of a deed and goes on to another state. -/
inductive Answers (g : γ) : Deed → γ → Prop where
  | opened (path : Path) : Answers g (.opened path (p.opens path g).1) (p.opens path g).2
  | looked : Answers g (.looked (p.branches g).1) (p.branches g).2
  | ran (words : List String) (timeout : Option Value) :
      Answers g (.ran words timeout (p.run words g).1) (p.run words g).2
  | slept (seconds : Nat) : Answers g (.slept seconds) g
  | closed : Answers g .closed g

/-- Git gives the answers of a row of deeds, one after the other. -/
inductive Told : γ → List Deed → γ → Prop where
  | nil (g : γ) : Told g [] g
  | cons {f g h : γ} {x : Deed} {xs : List Deed} (first : Answers p f x g) (rest : Told g xs h) :
      Told f (x :: xs) h

variable {p}

theorem Told.append {f g h : γ} {xs ys : List Deed} (first : Told p f xs g)
    (second : Told p g ys h) : Told p f (xs ++ ys) h := by
  induction first with
  | nil => exact second
  | cons answer _ ih => exact .cons answer (ih second)

variable (p)

/-- From one state of a repository to another, git gave the answers of a row of deeds, and the trace
grew by them. -/
structure Traced (s : Repository γ) (xs : List Deed) (t : Repository γ) : Prop where
  told : Told p s.git xs t.git
  actions : t.actions = s.actions ++ trace xs

/-- A row of deeds was all that happened to a repository, its events aside. -/
structure Did (s : Repository γ) (xs : List Deed) (t : Repository γ) : Prop
    extends Traced p s xs t where
  remote : t.remote = s.remote
  timeout : t.timeout = s.timeout
  dryRun : t.dryRun = s.dryRun
  maxRetries : t.maxRetries = s.maxRetries

variable {p} {s t u : Repository γ} {xs ys : List Deed}

theorem Traced.append (first : Traced p s xs t) (second : Traced p t ys u) :
    Traced p s (xs ++ ys) u where
  told := first.told.append second.told
  actions := by rw [second.actions, first.actions, trace_append, List.append_assoc]

theorem Did.append (first : Did p s xs t) (second : Did p t ys u) : Did p s (xs ++ ys) u where
  toTraced := first.toTraced.append second.toTraced
  remote := second.remote.trans first.remote
  timeout := second.timeout.trans first.timeout
  dryRun := second.dryRun.trans first.dryRun
  maxRetries := second.maxRetries.trans first.maxRetries

/-- To do nothing is to do no deed. -/
theorem Did.refl (s : Repository γ) : Did p s [] s :=
  ⟨⟨.nil _, (List.append_nil _).symm⟩, rfl, rfl, rfl, rfl⟩

variable (p)

/-! ### One command -/

/-- The repository after a command was run once. -/
def ran (words : List String) (timeout : Option Value) (s : Repository γ) : Repository γ :=
  { s with git := (p.run words s.git).2, actions := s.actions ++ [.ran words timeout] }

/-- A command that is run once gives what git answers. -/
theorem run_run (words : List String) (timeout : Option Value) (s : Repository γ) :
    Repository.run p words timeout s = (.ok (p.run words s.git).1, ran p words timeout s) := rfl

/-- A command that is run once is one deed. -/
theorem ran_did (words : List String) (timeout : Option Value) (s : Repository γ) :
    Did p s [.ran words timeout (p.run words s.git).1] (ran p words timeout s) :=
  ⟨⟨.cons (.ran words timeout) (.nil _), rfl⟩, rfl, rfl, rfl, rfl⟩

variable {p}

/-- A command that succeeds is settled with what it printed. -/
theorem settle_ok (operation ref out : String) (s : Repository γ) :
    Repository.settle operation ref (.ok out) s = (.ok out, s) := rfl

/-- A command that fails is settled with a failure. -/
theorem settle_error (operation ref : String) (f : Failure) (s : Repository γ) :
    ∃ e, Repository.settle operation ref (.error f) s = (.error e, s) := by
  cases f with
  | _ => exact ⟨_, rfl⟩

/-! ### Opening and the local repository -/

section Operations

variable (p) (s)

/-- To open a place is one deed, and binds the repository to a remote. -/
theorem openAt_traced (path : Path) (remote : String) :
    ∃ r, Traced p s [.opened path r] (Repository.openAt p (.located path) remote s).2 ∧
      (Repository.openAt p (.located path) remote s).2.remote = remote ∧
      (Repository.openAt p (.located path) remote s).2.timeout = s.timeout ∧
      ((∃ f e, r = .error f ∧ (Repository.openAt p (.located path) remote s).1 = .error e) ∨
        (r = .ok () ∧ (Repository.openAt p (.located path) remote s).1 = .ok ())) := by
  refine ⟨_, ⟨.cons (.opened path) (.nil _), rfl⟩, rfl, rfl, ?_⟩
  unfold Repository.openAt
  rcases h : (p.opens path s.git).1 with f | _
  · exact .inl ⟨f, Repository.openFailure (.located path) path.text f, rfl, by simp only [h]⟩
  · exact .inr ⟨rfl, by simp only [h]⟩

/-- To switch to a branch is one command. -/
theorem checkout_did (branch : String) :
    Did p s [.ran ["checkout", branch] none (p.run ["checkout", branch] s.git).1]
        (Repository.checkout p branch s).2 ∧
      ((Repository.checkout p branch s).1 = .ok () ↔
        ∃ out, (p.run ["checkout", branch] s.git).1 = .ok out) := by
  have did := ran_did p ["checkout", branch] none s
  unfold Repository.checkout
  rw [bind_ok _ (run_run p _ none s)]
  rcases h : (p.run ["checkout", branch] s.git).1 with f | out <;> rw [h] at did
  · obtain ⟨e, settled⟩ := settle_error "checkout" branch f (ran p ["checkout", branch] none s)
    rw [bind_error _ settled]
    exact ⟨did, by simp⟩
  · -- The event that tells of the checkout is no deed.
    rw [bind_ok _ (settle_ok "checkout" branch out _)]
    exact ⟨⟨⟨did.told, did.actions⟩, did.remote, did.timeout, did.dryRun, did.maxRetries⟩,
      fun _ => ⟨out, rfl⟩, fun _ => rfl⟩

/-- To look for a branch is one look at the branches. -/
theorem hasLocalBranch_did (name : String) :
    Did p s [.looked (p.branches s.git).1] (Repository.hasLocalBranch p name s).2 ∧
      ((∃ f e, (p.branches s.git).1 = .error f ∧
          (Repository.hasLocalBranch p name s).1 = .error e) ∨
        ∃ names, (p.branches s.git).1 = .ok names ∧
          (Repository.hasLocalBranch p name s).1 = .ok (names.contains name)) := by
  refine ⟨⟨⟨.cons .looked (.nil _), (List.append_nil _).symm⟩, rfl, rfl, rfl, rfl⟩, ?_⟩
  unfold Repository.hasLocalBranch
  cases h : (p.branches s.git).1 with
  | error f => exact .inl ⟨f, Repository.branchFailure f, rfl, by simp only [h]⟩
  | ok names => exact .inr ⟨names, rfl, by simp only [h]⟩

/-- The command that lists the tags that can be reached from a branch. -/
abbrev tagWords (branch : String) : List String := ["tag", "--sort=-v:refname", "--merged", branch]

/-- To list the tags of a branch is one command. -/
theorem tagsOnBranch_did (branch : String) :
    Did p s [.ran (tagWords branch) none (p.run (tagWords branch) s.git).1]
        (Repository.tagsOnBranch p branch s).2 ∧
      ((∃ f e, (p.run (tagWords branch) s.git).1 = .error f ∧
          (Repository.tagsOnBranch p branch s).1 = .error e) ∨
        ∃ out, (p.run (tagWords branch) s.git).1 = .ok out ∧
          (Repository.tagsOnBranch p branch s).1 = .ok (Repository.namesIn out)) := by
  have did := ran_did p (tagWords branch) none s
  unfold Repository.tagsOnBranch
  rw [bind_ok _ (run_run p _ none s)]
  rcases h : (p.run (tagWords branch) s.git).1 with f | out <;> rw [h] at did
  · obtain ⟨e, settled⟩ := settle_error "list_tags" branch f (ran p (tagWords branch) none s)
    rw [bind_error _ settled]
    exact ⟨did, .inl ⟨f, e, rfl, rfl⟩⟩
  · rw [bind_ok _ (settle_ok "list_tags" branch out _)]
    exact ⟨did, .inr ⟨out, rfl, rfl⟩⟩

end Operations

/-! ### Network commands -/

/-- The deeds of a network command that is tried a number of times: it is run, and after a failure
that may pass it is run again, after a pause. At the end stands the result of the last try. -/
inductive Tries (words : List String) (timeout : Value) :
    Nat → List Deed → Except Failure String → Prop where
  | last (r : Except Failure String) : Tries words timeout 1 [.ran words (some timeout) r] r
  | again {f : Failure} {seconds count : Nat} {xs : List Deed} {r : Except Failure String}
      (transient : isTransient f = true) (rest : Tries words timeout count xs r) :
      Tries words timeout (count + 1)
        (.ran words (some timeout) (.error f) :: .slept seconds :: xs) r

section Network

variable (p) (s)

/-- To read the state of a repository changes nothing. -/
theorem get_run : (get : Job γ (Repository γ)) s = (.ok s, s) := rfl

/-- The repository after an event was told. -/
def heard (e : Log.Event) (s : Repository γ) : Repository γ := { s with events := s.events ++ [e] }

/-- The repository after a pause. -/
def paused (seconds : Nat) (s : Repository γ) : Repository γ :=
  { s with actions := s.actions ++ [.slept seconds] }

/-- To tell an event is no deed. -/
theorem heard_did (e : Log.Event) : Did p s [] (heard e s) :=
  ⟨⟨.nil _, (List.append_nil _).symm⟩, rfl, rfl, rfl, rfl⟩

theorem paused_did (seconds : Nat) : Did p s [.slept seconds] (paused seconds s) :=
  ⟨⟨.cons (.slept seconds) (.nil _), rfl⟩, rfl, rfl, rfl, rfl⟩

/-- With a retry left, a command is run, and if it fails in a way that may pass, then again after a
pause. -/
theorem attempts_succ (operation : String) (words : List String) (left attempt : Nat) :
    Repository.attempts p operation words (left + 1) attempt s =
      match (p.run words s.git).1 with
      | .ok out => (.ok (.ok out), ran p words (some s.timeout) s)
      | .error f =>
        if isTransient f then
          Repository.attempts p operation words left (attempt + 1)
            (paused (Repository.pause attempt)
              (heard (Repository.retryEvent operation attempt s.maxRetries f)
                (ran p words (some s.timeout) s)))
        else (.ok (.error f), ran p words (some s.timeout) s) := by
  rw [Repository.attempts, bind_ok _ (get_run s), bind_ok _ (run_run p words _ s)]
  cases (p.run words s.git).1 with
  | ok out => rfl
  | error f =>
    simp only
    split
    · rfl
    · rfl

/-- A network command is tried at least once, and at most once more for each retry that is left. -/
theorem attempts_tries (operation : String) (words : List String) (left attempt : Nat) :
    ∃ count xs r, count ≤ left + 1 ∧ Tries words s.timeout count xs r ∧
      Did p s xs (Repository.attempts p operation words left attempt s).2 ∧
      (Repository.attempts p operation words left attempt s).1 = .ok r := by
  have did := ran_did p words (some s.timeout) s
  -- On the retries that are left. The next try starts from another state of git.
  induction left generalizing s attempt with
  | zero => exact ⟨1, _, _, Nat.le_refl _, .last (p.run words s.git).1, did, rfl⟩
  | succ left ih =>
    rw [attempts_succ]
    rcases h : (p.run words s.git).1 with f | out <;> rw [h] at did
    · simp only
      split
      · next transient =>
        -- The pause stands between this try and those of the retries that are left.
        let e := Repository.retryEvent operation attempt s.maxRetries f
        let next := paused (Repository.pause attempt) (heard e (ran p words (some s.timeout) s))
        have reached : Did p s [.ran words (some s.timeout) (.error f),
            .slept (Repository.pause attempt)] next :=
          (did.append (heard_did p _ e)).append (paused_did p _ _)
        obtain ⟨count, xs, r, bound, tries, rest, result⟩ := ih next (attempt + 1) (ran_did ..)
        exact ⟨count + 1, _, r, by omega, .again transient tries, reached.append rest, result⟩
      · exact ⟨1, _, _, by omega, .last (.error f), did, rfl⟩
    · exact ⟨1, _, _, by omega, .last (.ok out), did, rfl⟩

/-- A network command is tried, and then settled. -/
theorem overNetwork_tries (operation : String) (words : List String) (ref : String) :
    ∃ count xs r, count ≤ s.maxRetries + 1 ∧ Tries words s.timeout count xs r ∧
      Did p s xs (Repository.overNetwork p operation words ref s).2 ∧
      ∀ out, (Repository.overNetwork p operation words ref s).1 = .ok out ↔ r = .ok out := by
  obtain ⟨count, xs, r, bound, tries, did, result⟩ :=
    attempts_tries p s operation words s.maxRetries 1
  refine ⟨count, xs, r, bound, tries, ?_⟩
  have tried : Repository.attempts p operation words s.maxRetries 1 s
      = (.ok r, (Repository.attempts p operation words s.maxRetries 1 s).2) :=
    Prod.ext result rfl
  rw [Repository.overNetwork, bind_ok _ (get_run s), bind_ok _ tried]
  cases r with
  | error f =>
    obtain ⟨e, settled⟩ := settle_error operation ref f
      (Repository.attempts p operation words s.maxRetries 1 s).2
    rw [settled]
    exact ⟨did, fun out => by simp⟩
  | ok out =>
    rw [settle_ok]
    exact ⟨did, fun _ => by simp⟩

/-- The command that asks the remote for a ref. -/
abbrev listWords (kind : Ref.Kind) (remote ref : String) : List String :=
  ["ls-remote", Repository.listingOption kind, remote, ref]

variable {s} in
/-- A remote that is not refused passes the check. -/
theorem checkRemote_safe (safe : danger? s.remote = none) :
    (Repository.checkRemote : Job γ Unit) s = (.ok (), s) := by
  simp only [Repository.checkRemote, safe]

variable {s} in
/-- A remote that is refused fails the check. -/
theorem checkRemote_danger {d : Danger} (danger : danger? s.remote = some d) :
    (Repository.checkRemote : Job γ Unit) s = (.error (.plain (.dangerous d)), s) := by
  simp only [Repository.checkRemote, danger]

/-- A remote that is refused is not asked. Any other is asked for the full ref, with retries. -/
theorem hasRemoteRef_did (kind : Ref.Kind) (name : String) :
    (∃ d e, danger? s.remote = some d ∧
      Repository.hasRemoteRef p kind name s = (.error e, s)) ∨
    ∃ count xs r, danger? s.remote = none ∧ count ≤ s.maxRetries + 1 ∧
      Tries (listWords kind s.remote (kind.fullRef name)) s.timeout count xs r ∧
      Did p s xs (Repository.hasRemoteRef p kind name s).2 ∧
      ((∃ f e, r = .error f ∧ (Repository.hasRemoteRef p kind name s).1 = .error e) ∨
        ∃ out, r = .ok out ∧ (Repository.hasRemoteRef p kind name s).1
          = .ok (Repository.listingHas out (kind.fullRef name))) := by
  unfold Repository.hasRemoteRef
  cases safe : danger? s.remote with
  | some d => exact .inl ⟨d, _, rfl, bind_error _ (checkRemote_danger safe)⟩
  | none =>
    obtain ⟨count, xs, r, bound, tries, did, result⟩ :=
      overNetwork_tries p s "ls_remote" (listWords kind s.remote (kind.fullRef name))
        (kind.fullRef name)
    refine .inr ⟨count, xs, r, rfl, bound, tries, ?_⟩
    rw [bind_ok _ (checkRemote_safe safe), bind_ok _ (get_run s)]
    rcases h : Repository.overNetwork p "ls_remote"
      (listWords kind s.remote (kind.fullRef name)) (kind.fullRef name) s with ⟨e | out, t⟩ <;>
      rw [h] at did result
    · rw [bind_error _ h]
      cases r with
      | error f => exact ⟨did, .inl ⟨f, e, rfl, rfl⟩⟩
      | ok out => cases (result out).2 rfl
    · rw [bind_ok _ h, (result out).1 rfl]
      exact ⟨did, .inr ⟨out, rfl, rfl⟩⟩

/-- A push is the push command with retries. -/
theorem push_did (ref : String) :
    ∃ count xs r, count ≤ s.maxRetries + 1 ∧
      Tries (Repository.pushWords s.dryRun s.remote ref) s.timeout count xs r ∧
      Did p s xs (Repository.push p ref s).2 ∧
      ((Repository.push p ref s).1 = .ok () ↔ ∃ out, r = .ok out) := by
  obtain ⟨count, xs, r, bound, tries, did, result⟩ :=
    overNetwork_tries p s "push" (Repository.pushWords s.dryRun s.remote ref) ref
  refine ⟨count, xs, r, bound, tries, ?_⟩
  rw [Repository.push, bind_ok _ (get_run s)]
  rcases h : Repository.overNetwork p "push" (Repository.pushWords s.dryRun s.remote ref) ref s
    with ⟨e | out, t⟩ <;> rw [h] at did result
  · rw [bind_error _ h]
    refine ⟨did, nofun, ?_⟩
    rintro ⟨out, ok⟩
    cases (result out).2 ok
  · rw [bind_ok _ h, (result out).1 rfl]
    have heard := did.append (heard_did p t ⟨"Push%s completed to %s/%s", .info, Repository.source,
      [.text (if s.dryRun then " (dry-run)" else ""), .text s.remote, .text ref], []⟩)
    rw [List.append_nil] at heard
    exact ⟨heard, fun _ => ⟨out, rfl⟩, fun _ => rfl⟩

/-- To give the repository back is a deed, and never fails. -/
theorem close_did : Did p s [.closed] (Repository.close s).2 ∧ (Repository.close s).1 = .ok () :=
  ⟨⟨⟨.cons .closed (.nil _), rfl⟩, rfl, rfl, rfl, rfl⟩, rfl⟩

end Network

/-! ### What git answered -/

/-- Git gives the answer of the first deed, and then those of the others. -/
theorem Told.uncons {f h : γ} {x : Deed} (told : Told p f (x :: xs) h) :
    ∃ g, Answers p f x g ∧ Told p g xs h := by
  cases told with
  | cons answer rest => exact ⟨_, answer, rest⟩

/-- Git gives the answer of a single deed. -/
theorem Told.single {f g : γ} {x : Deed} (told : Told p f [x] g) : Answers p f x g := by
  cases told with
  | cons answer rest =>
    cases rest
    exact answer

/-- Git gives the answers of two rows of deeds one after the other. -/
theorem Told.split {f h : γ} {xs ys : List Deed} (told : Told p f (xs ++ ys) h) :
    ∃ g, Told p f xs g ∧ Told p g ys h := by
  induction xs generalizing f with
  | nil => exact ⟨f, .nil f, told⟩
  | cons x xs ih =>
    obtain ⟨f', answer, rest⟩ := told.uncons
    obtain ⟨g, front, back⟩ := ih rest
    exact ⟨g, .cons answer front, back⟩

/-- Without a deed git stays as it is. -/
theorem Told.nil_eq {f g : γ} (told : Told p f [] g) : g = f := by
  cases told
  rfl

/-- The answer to an opening, and what git goes on with. -/
theorem Answers.opened_eq {f g : γ} {path : Path} {r : Except Failure Unit}
    (answer : Answers p f (.opened path r) g) :
    r = (p.opens path f).1 ∧ g = (p.opens path f).2 := by
  cases answer
  exact ⟨rfl, rfl⟩

/-- The answer to a command, and what git goes on with. -/
theorem Answers.ran_eq {f g : γ} {words : List String} {timeout : Option Value}
    {r : Except Failure String} (answer : Answers p f (.ran words timeout r) g) :
    r = (p.run words f).1 ∧ g = (p.run words f).2 := by
  cases answer
  exact ⟨rfl, rfl⟩

/-- The answer to a look at the branches, and what git goes on with. -/
theorem Answers.looked_eq {f g : γ} {r : Except Failure (List String)}
    (answer : Answers p f (.looked r) g) : r = (p.branches f).1 ∧ g = (p.branches f).2 := by
  cases answer
  exact ⟨rfl, rfl⟩

/-- Giving a repository back leaves git as it was. -/
theorem Answers.closed_eq {f g : γ} (answer : Answers p f .closed g) : g = f := by
  cases answer
  rfl

/-- A command that succeeds is tried once. -/
theorem Tries.once {words : List String} {timeout : Value} {count : Nat}
    {r : Except Failure String} {f g : γ} {out : String} (tries : Tries words timeout count xs r)
    (told : Told p f xs g) (succeeds : (p.run words f).1 = .ok out) :
    r = .ok out ∧ g = (p.run words f).2 := by
  cases tries with
  | last =>
    obtain ⟨rfl, rfl⟩ := told.single.ran_eq
    exact ⟨succeeds, rfl⟩
  | again =>
    obtain ⟨_, answer, -⟩ := told.uncons
    cases answer.ran_eq.1.trans succeeds

end Repositories

end ReleaseRefs.Proofs.Git
