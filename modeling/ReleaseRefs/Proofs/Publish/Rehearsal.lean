import ReleaseRefs.Proofs.Publish.Convergence

/-!
# `ReleaseRefs.Proofs.Publish.Rehearsal`: a dry run shows what the real run does

A dry run is made to see what a release would do. So it has to ask the same questions, in the same
order, and to come to the same results, although its remote does not grow as that of the real run
does. `release_rehearsed` says so over the repository in memory: any of the calls may fail, and the
refs to publish are distinct.

The real run changes the remote under its later look-ups. A look-up for another ref cannot see
that, since a full ref determines its kind and name (`Ref.Kind.fullRef_injective`).

- `Beside` relates the two repositories: they differ in the mode, and their remotes in refs that
  were asked for before. Every call keeps it (`Beside.answer`), and a push adds its ref to those in
  which the remotes may differ (`Beside.answer_push`).
- `Parallel` relates two computations, with a rule for each way to build one. `create_parallel` and
  `publish_parallel` go along the text of the publisher with them.
- `each_parallel` is the induction on the refs of a release.
-/

set_option autoImplicit false

namespace ReleaseRefs.Proofs.Publish

open ReleaseRefs.Publish ReleaseRefs.Publish.Publisher

/-! ### Two repositories -/

/-- Two repositories in memory that differ in their mode at most, and in whether their remotes have
the refs that are apart. -/
structure Beside (apart : List (Ref.Kind × String)) (m n : Memory) : Prop where
  branches : m.branches = n.branches
  tags : m.tags = n.tags
  opening : m.opening = n.opening
  faults : m.faults = n.faults
  remote : ∀ ref ∉ apart, ref.1.fullRef ref.2 ∈ m.remoteRefs ↔ ref.1.fullRef ref.2 ∈ n.remoteRefs

section Repositories

variable {apart more : List (Ref.Kind × String)} {m n : Memory}

theorem Beside.refl (m : Memory) : Beside [] m m := ⟨rfl, rfl, rfl, rfl, fun _ _ => Iff.rfl⟩

/-- More refs may count as apart. -/
theorem Beside.mono (beside : Beside apart m n) (sub : apart ⊆ more) : Beside more m n :=
  ⟨beside.branches, beside.tags, beside.opening, beside.faults,
    fun ref absent => beside.remote ref fun member => absent (sub member)⟩

/-- Both use up the same plan. -/
theorem Beside.advance (beside : Beside apart m n) (k : Method) :
    Beside apart (m.advance k) (n.advance k) where
  branches := beside.branches
  tags := beside.tags
  opening := beside.opening
  faults := by simp only [Memory.advance, beside.faults]
  remote := beside.remote

/-- Both remotes have a ref that is not apart, or neither has it. -/
theorem Beside.contains (beside : Beside apart m n) {kind : Ref.Kind} {name : String}
    (together : (kind, name) ∉ apart) :
    m.remoteRefs.contains (kind.fullRef name) = n.remoteRefs.contains (kind.fullRef name) := by
  rw [Bool.eq_iff_iff, List.contains_iff_mem, List.contains_iff_mem]
  exact beside.remote (kind, name) together

/-- A call is replied to alike if it is served alike, since both plans have the same failure for
it. -/
theorem Beside.reply {c : Call} (beside : Beside apart m n) (sub : apart ⊆ more)
    (serve : ∀ m n, Beside apart m n →
      (m.serve c).1 = (n.serve c).1 ∧ Beside more (m.serve c).2 (n.serve c).2) :
    (Memory.handle.answer c m).result = (Memory.handle.answer c n).result ∧
      Beside more (Memory.handle.answer c m).state (Memory.handle.answer c n).state := by
  have advanced := beside.advance c.method
  simp only [Memory.handle, Memory.reply, beside.faults]
  cases (n.faults c.method).headD none with
  | some r => exact ⟨rfl, advanced.mono sub⟩
  | none =>
    obtain ⟨answer, after⟩ := serve _ _ advanced
    exact ⟨congrArg Except.ok answer, after⟩

/-- A call that is no push is replied to alike, unless it asks for a ref that is apart. -/
theorem Beside.answer {c : Call} (beside : Beside apart m n) (noPush : c.method ≠ .push)
    (asks : ∀ kind name, c = remoteCall name kind → (kind, name) ∉ apart) :
    (Memory.handle.answer c m).result = (Memory.handle.answer c n).result ∧
      Beside apart (Memory.handle.answer c m).state (Memory.handle.answer c n).state := by
  refine beside.reply (List.Subset.refl apart) fun m n beside => ?_
  cases c with
  | push => exact absurd rfl noPush
  | hasLocalBranch name => exact ⟨congrArg (List.contains · name) beside.branches, beside⟩
  | tagsOnBranch => exact ⟨beside.tags, beside⟩
  | hasRemoteBranch name => exact ⟨beside.contains (asks .branch name rfl), beside⟩
  | hasRemoteTag name => exact ⟨beside.contains (asks .tag name rfl), beside⟩
  | setDryRun b =>
    exact ⟨rfl, beside.branches, beside.tags, beside.opening, beside.faults, beside.remote⟩
  | _ => exact ⟨rfl, beside⟩

/-- Two changes of the mode are replied to alike, whatever the modes are. -/
theorem Beside.answer_setDryRun (beside : Beside apart m n) (b b' : Bool) :
    (Memory.handle.answer (.setDryRun b) m).result =
        (Memory.handle.answer (.setDryRun b') n).result ∧
      Beside apart (Memory.handle.answer (.setDryRun b) m).state
        (Memory.handle.answer (.setDryRun b') n).state := by
  have advanced := beside.advance .setDryRun
  simp only [Memory.handle, Memory.reply, Call.method, beside.faults]
  cases (n.faults .setDryRun).headD none with
  | some r => exact ⟨rfl, advanced⟩
  | none =>
    exact ⟨rfl, advanced.branches, advanced.tags, advanced.opening, advanced.faults,
      advanced.remote⟩

/-- A push may add its ref to one of the remotes only, so the ref is apart from then on. -/
theorem Beside.answer_push (beside : Beside apart m n) (kind : Ref.Kind) (name : String) :
    (Memory.handle.answer (.push (kind.fullRef name)) m).result =
        (Memory.handle.answer (.push (kind.fullRef name)) n).result ∧
      Beside ((kind, name) :: apart) (Memory.handle.answer (.push (kind.fullRef name)) m).state
        (Memory.handle.answer (.push (kind.fullRef name)) n).state := by
  refine beside.reply (List.subset_cons_self _ _) fun m n beside => ⟨rfl, ?_⟩
  have kept := beside.mono (List.subset_cons_self (kind, name) apart)
  -- No other ref has the full ref that is pushed.
  have other (ref : Ref.Kind × String) (absent : ref ∉ (kind, name) :: apart) :
      ref.1.fullRef ref.2 ≠ kind.fullRef name := by
    intro same
    obtain ⟨rfl, rfl⟩ := Ref.Kind.fullRef_injective same
    exact absent List.mem_cons_self
  have grown (l : Memory) (ref : Ref.Kind × String) (absent : ref ∉ (kind, name) :: apart) :
      ref.1.fullRef ref.2 ∈ (l.serve (.push (kind.fullRef name))).2.remoteRefs ↔
        ref.1.fullRef ref.2 ∈ l.remoteRefs := by
    rw [Memory.serve_push_remoteRefs]
    split
    · exact Iff.rfl
    · simp [other ref absent]
  have same (l : Memory) : (l.serve (.push (kind.fullRef name))).2 =
      { l with remoteRefs := (l.serve (.push (kind.fullRef name))).2.remoteRefs } := by
    simp only [Memory.serve]
    split <;> rfl
  rw [same m, same n]
  exact ⟨kept.branches, kept.tags, kept.opening, kept.faults, fun ref absent =>
    (grown m ref absent).trans ((kept.remote ref absent).trans (grown n ref absent).symm)⟩

end Repositories

/-! ### Two computations -/

/-- Two sessions that go side by side: the repositories are beside each other, both were given back
or neither, and the calls so far are in a relation. -/
structure Abreast (traces : List Exchange → List Exchange → Prop)
    (apart : List (Ref.Kind × String)) (s t : Session Memory) : Prop where
  states : Beside apart s.state t.state
  released : s.released = t.released
  exchanges : traces s.exchanges t.exchanges

/-- A relation of traces that is kept by one exchange more, if it is the same on both sides. -/
def Extends (traces : List Exchange → List Exchange → Prop) : Prop :=
  ∀ xs ys x, traces xs ys → traces (xs ++ [x]) (ys ++ [x])

/-- Two computations that go side by side: from sessions in a relation they end in sessions in
another one, with the same result up to a function. -/
def Parallel {α β : Type} (start stop : Session Memory → Session Memory → Prop) (f : β → α)
    (w : Work Memory α) (v : Work Memory β) : Prop :=
  ∀ s t, start s t → (w s).1 = (v t).1.map f ∧ stop (w s).2 (v t).2

section Rules

variable {α β α' β' : Type} {start middle stop : Session Memory → Session Memory → Prop}
  {f : β → α} {g : β' → α'}

/-- A value, and the same value up to the function. -/
theorem Parallel.pure (b : β) : Parallel start start f (Pure.pure (f b)) (Pure.pure b) :=
  fun _ _ first => ⟨rfl, first⟩

/-- A failure. -/
theorem Parallel.throw (e : Raised) :
    Parallel start start f (MonadExcept.throw e) (MonadExcept.throw e) :=
  fun _ _ first => ⟨rfl, first⟩

/-- The sessions at the end may be described in another way. -/
theorem Parallel.mono {w : Work Memory α} {v : Work Memory β}
    (parallel : Parallel start middle f w v) (sub : ∀ s t, middle s t → stop s t) :
    Parallel start stop f w v := fun s t first =>
  ⟨(parallel s t first).1, sub _ _ (parallel s t first).2⟩

/-- Two computations after two others. If the first two fail, then they do so alike. -/
theorem Parallel.bind {w : Work Memory α} {v : Work Memory β} {k : α → Work Memory α'}
    {l : β → Work Memory β'} (first : Parallel start middle f w v)
    (second : ∀ b, Parallel middle stop g (k (f b)) (l b)) (sub : ∀ s t, middle s t → stop s t) :
    Parallel start stop g (w >>= k) (v >>= l) := by
  intro s t begun
  obtain ⟨result, next⟩ := first s t begun
  rw [bind_eq, bind_eq]
  rcases hw : w s with ⟨e | a, s'⟩ <;> rcases hv : v t with ⟨e' | b, t'⟩ <;>
    rw [hw, hv] at result next
  · cases result
    exact ⟨rfl, sub _ _ next⟩
  · cases result
  · cases result
  · cases result
    exact second b s' t' next

end Rules

section Sessions

variable {traces : List Exchange → List Exchange → Prop} {apart more : List (Ref.Kind × String)}

theorem Abreast.mono {s t : Session Memory} (abreast : Abreast traces apart s t)
    (sub : apart ⊆ more) : Abreast traces more s t :=
  ⟨abreast.states.mono sub, abreast.released, abreast.exchanges⟩

/-- What is told is no call, and may differ. -/
theorem told_parallel (e e' : Log.Event) :
    Parallel (Abreast traces apart) (Abreast traces apart) id (Work.tell e) (Work.tell e') :=
  fun _ _ abreast => ⟨rfl, abreast.states, abreast.released, abreast.exchanges⟩

theorem rewording_parallel {start stop : Session Memory → Session Memory → Prop} {α : Type}
    (reword : Raised → Raised) {w v : Work Memory α} (parallel : Parallel start stop id w v) :
    Parallel start stop id (Work.rewording reword w) (Work.rewording reword v) := by
  intro s t first
  obtain ⟨result, next⟩ := parallel s t first
  rw [Except.map_id, id] at result
  refine ⟨?_, next⟩
  rw [Except.map_id, id]
  exact congrArg (Except.mapError reword) result

end Sessions

/-! ### The publisher -/

/-- The options for a dry run, or for a real one. -/
abbrev inMode (config : Config) (dryRun : Bool) : Config := { config with dryRun }

/-- What a dry run says of an outcome. -/
def simulated (o : Outcome) : Outcome := { o with dryRun := true }

section Publisher

variable {traces : List Exchange → List Exchange → Prop} {apart : List (Ref.Kind × String)}
  (config : Config) {b b' : Bool}

theorem checkName_parallel (kind : Ref.Kind) (name : String) :
    Parallel (Abreast traces apart) (Abreast traces apart) id
      (checkName (inMode config b) kind name) (checkName (inMode config b') kind name) := by
  intro s t abreast
  unfold checkName
  cases Ref.check kind config.tagPrefix name <;> exact ⟨rfl, abreast⟩

theorem checkOpen_parallel (name : String) :
    Parallel (Abreast traces apart) (Abreast traces apart) id
      (checkOpen name : Work Memory Unit) (checkOpen name) := by
  intro s t abreast
  unfold checkOpen
  rw [abreast.released]
  cases t.released <;> exact ⟨rfl, abreast⟩

section Calls

variable (keeps : Extends traces)

include keeps

/-- A call that is no push, and does not ask for a ref that is apart. -/
theorem call_parallel {c : Call} (noPush : c.method ≠ .push)
    (asks : ∀ kind name, c = remoteCall name kind → (kind, name) ∉ apart) :
    Parallel (Abreast traces apart) (Abreast traces apart) id
      (Work.call Memory.handle c) (Work.call Memory.handle c) := by
  intro s t abreast
  obtain ⟨result, after⟩ := abreast.states.answer noPush asks
  rw [call_run, call_run, Except.map_id, id, result]
  refine ⟨rfl, after, abreast.released, ?_⟩
  rw [asked_exchanges, asked_exchanges, result]
  exact keeps _ _ _ abreast.exchanges

/-- A push, after which the remotes may differ in its ref. -/
theorem push_call_parallel (kind : Ref.Kind) (name : String) :
    Parallel (Abreast traces apart) (Abreast traces ((kind, name) :: apart)) id
      (Work.call Memory.handle (.push (kind.fullRef name)))
      (Work.call Memory.handle (.push (kind.fullRef name))) := by
  intro s t abreast
  obtain ⟨result, after⟩ := abreast.states.answer_push kind name
  rw [call_run, call_run, Except.map_id, id, result]
  refine ⟨rfl, after, abreast.released, ?_⟩
  rw [asked_exchanges, asked_exchanges, result]
  exact keeps _ _ _ abreast.exchanges

theorem isLocal_parallel (kind : Ref.Kind) (name : String) :
    Parallel (Abreast traces apart) (Abreast traces apart) id
      (isLocal Memory.handle (inMode config b) kind name)
      (isLocal Memory.handle (inMode config b') kind name) := by
  cases kind with
  | branch =>
    exact rewording_parallel _ (call_parallel keeps (c := .hasLocalBranch name)
      (by simp [Call.method]) (by rintro (_ | _) _ ⟨⟩))
  | tag =>
    refine rewording_parallel _ (Parallel.bind (call_parallel keeps
      (c := .tagsOnBranch config.defaultBranch) (by simp [Call.method])
      (by rintro (_ | _) _ ⟨⟩)) (fun tags => ?_) fun _ _ => id)
    exact .pure ((tags : List String).contains name)

theorem isRemote_parallel {kind : Ref.Kind} {name : String} (together : (kind, name) ∉ apart) :
    Parallel (Abreast traces apart) (Abreast traces apart) id
      (isRemote Memory.handle (inMode config b) kind name)
      (isRemote Memory.handle (inMode config b') kind name) := by
  cases kind with
  | branch =>
    refine rewording_parallel _ (call_parallel keeps (c := .hasRemoteBranch name)
      (by simp [Call.method]) ?_)
    rintro (_ | _) _ ⟨⟩
    exact together
  | tag =>
    refine rewording_parallel _ (call_parallel keeps (c := .hasRemoteTag name)
      (by simp [Call.method]) ?_)
    rintro (_ | _) _ ⟨⟩
    exact together

/-- A push is announced, made and told. -/
theorem push_parallel (kind : Ref.Kind) (name : String) :
    Parallel (Abreast traces apart) (Abreast traces ((kind, name) :: apart)) id
      (push Memory.handle (inMode config b) kind name)
      (push Memory.handle (inMode config b') kind name) := by
  refine .bind (told_parallel _ _) (fun _ => ?_) fun s t abreast => abreast.mono (by simp)
  refine .bind (rewording_parallel _ (push_call_parallel keeps kind name)) (fun _ => ?_)
    fun _ _ => id
  exact told_parallel _ _

/-- A ref that is not apart is published in a dry run as in the real run, with the same calls. -/
theorem publish_parallel {kind : Ref.Kind} {name : String} (together : (kind, name) ∉ apart) :
    Parallel (Abreast traces apart) (Abreast traces ((kind, name) :: apart)) simulated
      (publish Memory.handle (inMode config true) kind name)
      (publish Memory.handle (inMode config b) kind name) := by
  have sub (s t : Session Memory) (abreast : Abreast traces apart s t) :
      Abreast traces ((kind, name) :: apart) s t := abreast.mono (List.subset_cons_self _ _)
  refine .bind (checkName_parallel config kind name) (fun _ => ?_) sub
  refine .bind (checkOpen_parallel name) (fun _ => ?_) sub
  refine .bind (isLocal_parallel config keeps kind name) (fun found => ?_) sub
  cases found with
  | false => exact (Parallel.throw _).mono sub
  | true =>
    refine .bind (isRemote_parallel config keeps together) (fun present => ?_) sub
    cases present with
    | true =>
      refine .bind (told_parallel _ _) (fun _ => ?_) sub
      exact (Parallel.pure (⟨name, kind, false, b⟩ : Outcome)).mono sub
    | false =>
      refine .bind (push_parallel config keeps kind name) (fun _ => ?_) fun _ _ => id
      exact .pure (⟨name, kind, true, b⟩ : Outcome)

end Calls

/-! ### Opening -/

/-- Two sessions that go side by side, whatever the calls so far were. -/
abbrev Level (apart : List (Ref.Kind × String)) : Session Memory → Session Memory → Prop :=
  Abreast (fun _ _ => True) apart

omit config in
theorem extends_true : Extends fun _ _ => True := fun _ _ _ _ => trivial

theorem close_parallel :
    Parallel (Level []) (Level []) id (close Memory.handle) (close Memory.handle) := by
  intro s t level
  rw [close_run, close_run, level.released]
  split
  · exact ⟨rfl, level⟩
  · exact call_parallel extends_true (c := .close) (by simp [Call.method]) (by simp)
      (released s) (released t) ⟨level.states, rfl, trivial⟩

/-- The options are handed over alike, but for the mode. -/
theorem prepare_parallel (b b' : Bool) :
    Parallel (Level []) (Level []) id (prepare Memory.handle (inMode config b))
      (prepare Memory.handle (inMode config b')) := by
  have none (c : Call) : ∀ kind name, c = remoteCall name kind → (kind, name) ∉ [] := by simp
  have same {s t : Session Memory} : Level [] s t → Level [] s t := id
  have announcing : Parallel (Level []) (Level []) id (announce (inMode config b))
      (announce (inMode config b')) := by
    intro s t level
    unfold announce
    split <;> split <;> exact ⟨rfl, level.states, level.released, trivial⟩
  have changing : Parallel (Level []) (Level []) id
      (Work.call Memory.handle (.setDryRun b)) (Work.call Memory.handle (.setDryRun b')) := by
    intro s t level
    obtain ⟨result, after⟩ := level.states.answer_setDryRun b b'
    rw [call_run, call_run, Except.map_id, id]
    exact ⟨result, after, level.released, trivial⟩
  rw [prepare_eq, prepare_eq]
  refine .bind (told_parallel _ _) (fun _ => ?_) fun _ _ => same
  refine .bind (rewording_parallel _ (call_parallel extends_true
    (c := .checkout config.defaultBranch) (by simp [Call.method]) (none _))) (fun _ => ?_)
    fun _ _ => same
  refine .bind announcing (fun _ => ?_) fun _ _ => same
  refine .bind changing (fun _ => ?_) fun _ _ => same
  exact call_parallel extends_true (c := .setMaxRetries config.maxRetries)
    (by simp [Call.method]) (none _)

/-- A publisher is created for a dry run as for the real run. -/
theorem create_parallel (b b' : Bool) :
    Parallel (Level []) (Level []) id (create Memory.handle (inMode config b))
      (create Memory.handle (inMode config b')) := by
  refine .bind (rewording_parallel _ ?_) (fun _ => ?_) fun _ _ => id
  · intro s t level
    have opens : (Memory.handle.opens config.repoPath config.remote s.state).1
        = (Memory.handle.opens config.repoPath config.remote t.state).1 := by
      simp only [Memory.handle, level.states.opening]
    rw [Except.map_id, id]
    exact ⟨opens, level.states, level.released, trivial⟩
  · intro s t level
    obtain ⟨result, after⟩ := prepare_parallel config b b' s t level
    unfold releasingOnFailure
    rcases hw : prepare Memory.handle (inMode config b) s with ⟨e | _, s'⟩ <;>
      rcases hv : prepare Memory.handle (inMode config b') t with ⟨e' | _, t'⟩ <;>
      rw [hw, hv] at result after
    · cases result
      -- Both preparations failed alike, and then both repositories are given back.
      obtain ⟨given, last⟩ := close_parallel s' t' after
      rcases hc : close Memory.handle s' with ⟨f | _, u⟩ <;>
        rcases hd : close Memory.handle t' with ⟨f' | _, u'⟩ <;> rw [hc, hd] at given last <;>
        cases given <;> simp only [hc, hd] <;> exact ⟨rfl, last⟩
    · cases result
    · cases result
    · exact ⟨rfl, after⟩

end Publisher

/-! ### Releases -/

section Releases

variable {traces : List Exchange → List Exchange → Prop}

/-- Distinct refs that are not apart are published in a dry run as in the real run. -/
theorem each_parallel (config : Config) (b : Bool) (keeps : Extends traces)
    {refs : List (Ref.Kind × String)} (distinct : refs.Nodup) {apart : List (Ref.Kind × String)}
    (together : ∀ ref ∈ refs, ref ∉ apart) {s t : Session Memory}
    (abreast : Abreast traces apart s t) :
    (Work.each (publications (inMode config true) refs) s).1 =
        (Work.each (publications (inMode config b) refs) t).1.map (Except.map simulated) ∧
      Abreast traces (apart ++ refs) (Work.each (publications (inMode config true) refs) s).2
        (Work.each (publications (inMode config b) refs) t).2 := by
  -- On the refs. Each one is apart once it was asked for, and is not asked for again.
  induction refs generalizing apart s t with
  | nil => exact ⟨rfl, abreast.mono (List.subset_append_left _ _)⟩
  | cons ref refs ih =>
    obtain ⟨fresh, distinct⟩ := List.nodup_cons.1 distinct
    obtain ⟨result, next⟩ :=
      publish_parallel config keeps (together ref List.mem_cons_self) s t abreast
    have later : ∀ x ∈ refs, x ∉ ref :: apart := by
      intro x member absent
      rcases List.mem_cons.1 absent with rfl | old
      · exact fresh member
      · exact together x (List.mem_cons_of_mem _ member) old
    obtain ⟨results, last⟩ := ih distinct later next
    refine ⟨?_, last.mono ?_⟩
    · show _ :: _ = _ :: _
      rw [result]
      exact congrArg _ results
    · intro x member
      simp only [List.cons_append, List.mem_cons, List.mem_append] at member ⊢
      tauto

/-- Publishing in a dry run leaves the remote alone. -/
theorem each_simulated (config : Config) (refs : List (Ref.Kind × String)) {s : Session Memory}
    (dry : s.state.dryRun = true) :
    (Work.each (publications config refs) s).2.state.remoteRefs = s.state.remoteRefs := by
  induction refs generalizing s with
  | nil => rfl
  | cons ref refs ih =>
    have next := (publish_dryRun config ref.1 ref.2 s).trans dry
    refine (ih next).trans ?_
    have effect := publish_effect config ref.1 ref.2 s
    generalize publish Memory.handle config ref.1 ref.2 s = rt at effect
    obtain ⟨r, t⟩ := rt
    cases effect with
    | kept keeps => exact keeps.remoteRefs
    | added _ _ _ _ remoteRefs => rw [remoteRefs, dry, if_pos rfl]

/-- One ref more makes the same calls in a dry run as in the real run. -/
theorem each_calls (config : Config) (b : Bool) {refs : List (Ref.Kind × String)}
    (distinct : refs.Nodup) {s t : Session Memory} (level : Level [] s t) (i : Nat) :
    let dry (i : Nat) := (Work.each (publications (inMode config true) (refs.take i)) s).2
    let real (i : Nat) := (Work.each (publications (inMode config b) (refs.take i)) t).2
    ∃ made, (dry (i + 1)).exchanges = (dry i).exchanges ++ made ∧
      (real (i + 1)).exchanges = (real i).exchanges ++ made := by
  intro dry real
  cases request : refs[i]? with
  | none =>
    have same : refs.take (i + 1) = refs.take i := by
      rw [List.take_add_one, request, Option.toList_none, List.append_nil]
    refine ⟨[], ?_⟩
    simp only [dry, real, same, List.append_nil, and_self]
  | some ref =>
    have grown : refs.take (i + 1) = refs.take i ++ [ref] := by
      rw [List.take_add_one, request, Option.toList_some]
    have fresh : ref ∉ refs.take i := by
      have distinct := distinct.sublist (List.take_sublist (i + 1) refs)
      rw [grown, List.nodup_append] at distinct
      exact fun member => distinct.2.2 ref member ref List.mem_cons_self rfl
    have thusFar := (each_parallel config b extends_true
      (distinct.sublist (List.take_sublist i refs)) (by simp) level).2
    -- From here on the relation of traces counts the calls that are new.
    let news : List Exchange → List Exchange → Prop := fun xs ys =>
      ∃ made, xs = (dry i).exchanges ++ made ∧ ys = (real i).exchanges ++ made
    have keeps : Extends news := by
      rintro _ _ x ⟨made, rfl, rfl⟩
      exact ⟨made ++ [x], List.append_assoc _ _ _, List.append_assoc _ _ _⟩
    have begun : Abreast news (refs.take i) (dry i) (real i) :=
      ⟨thusFar.states, thusFar.released, [], (List.append_nil _).symm, (List.append_nil _).symm⟩
    have ended := (publish_parallel config (b := b) keeps fresh _ _ begun).2.exchanges
    have dryNext : dry (i + 1)
        = (publish Memory.handle (inMode config true) ref.1 ref.2 (dry i)).2 := by
      simp only [dry, grown, publications, List.map_append, each_append]
      rfl
    have realNext : real (i + 1)
        = (publish Memory.handle (inMode config b) ref.1 ref.2 (real i)).2 := by
      simp only [real, grown, publications, List.map_append, each_append]
      rfl
    rw [dryNext, realNext]
    exact ended

end Releases

/-- A dry run shows what the real run does.

For every configuration, every repository in memory, all failures that are planned for its calls and
every row of distinct refs, after each number of refs:

- the dry run and the real run have the same results up to then, but for the mode that an outcome
  tells; if no publisher was created, then both failed alike;
- the next ref makes the same calls in both, with the same arguments and the same answers;
- the remote of the dry run has the refs that it had before;
- every outcome of the dry run says that it is one. -/
theorem release_rehearsed (config : Config) (m : Memory) {refs : List (Ref.Kind × String)}
    (distinct : refs.Nodup) :
    let dry (i : Nat) := release Memory.handle (inMode config true) (refs.take i) (.start m)
    let real (i : Nat) := release Memory.handle (inMode config false) (refs.take i) (.start m)
    ∀ i,
      (dry i).1 = (real i).1.map (List.map (Except.map simulated)) ∧
      (∃ made, (dry (i + 1)).2.exchanges = (dry i).2.exchanges ++ made ∧
        (real (i + 1)).2.exchanges = (real i).2.exchanges ++ made) ∧
      (dry i).2.state.remoteRefs = m.remoteRefs ∧
      ∀ results o, (dry i).1 = .ok results → .ok o ∈ results → o.dryRun = true := by
  intro dry real i
  suffices (dry i).1 = (real i).1.map (List.map (Except.map simulated)) ∧
      (∃ made, (dry (i + 1)).2.exchanges = (dry i).2.exchanges ++ made ∧
        (real (i + 1)).2.exchanges = (real i).2.exchanges ++ made) ∧
      (dry i).2.state.remoteRefs = m.remoteRefs by
    obtain ⟨same, calls, remote⟩ := this
    refine ⟨same, calls, remote, fun results o done member => ?_⟩
    -- The outcome is one of the real run, as the dry run tells it.
    rw [same] at done
    cases hr : (real i).1 with
    | error e => rw [hr] at done; cases done
    | ok rs =>
      rw [hr] at done
      obtain rfl := Except.ok.inj done
      obtain ⟨r, -, told⟩ := List.mem_map.1 member
      cases r with
      | error e => cases told
      | ok q => cases told; rfl
  obtain ⟨result, level⟩ := create_parallel config true false (.start m) (.start m)
    ⟨.refl m, rfl, trivial⟩
  have untouched := create_untouched (inMode config true) (.start m)
  simp only [dry, real, release_run]
  rcases hc : create Memory.handle (inMode config true) (.start m) with ⟨e | _, s⟩ <;>
    rcases hd : create Memory.handle (inMode config false) (.start m) with ⟨e' | _, t⟩ <;>
    rw [hc, hd] at result level <;> rw [hc] at untouched
  · cases result
    exact ⟨rfl, ⟨[], (List.append_nil _).symm, (List.append_nil _).symm⟩,
      untouched.keeps.remoteRefs⟩
  · cases result
  · cases result
  · obtain ⟨results, -⟩ := each_parallel config false extends_true
      (distinct.sublist (List.take_sublist i refs)) (by simp) level
    exact ⟨congrArg Except.ok results, each_calls config false distinct level i,
      (each_simulated _ _ (create_ready hc).2).trans untouched.keeps.remoteRefs⟩

/-- A branch and a tag of one name, with an interrupt planned for the push of the tag. The real run
pushes the branch before it asks for the tag. The dry run tells of the same push and is interrupted
at the same one, and its remote stays as it was. -/
theorem release_rehearsed_shared_name :
    [(Ref.Kind.branch, "release-1.0.0-rc"), (.tag, "release-1.0.0-rc")].Nodup ∧
    let real := release Memory.handle ⟨false, 0, ⟨"."⟩, "master", "origin", "release-"⟩
      [(.branch, "release-1.0.0-rc"), (.tag, "release-1.0.0-rc")]
      (.start ⟨["release-1.0.0-rc"], ["release-1.0.0-rc"], ["refs/heads/master"], true, none,
        fun k => if k = .push then [none, some (.plain (.interrupted ""))] else []⟩)
    let dry := release Memory.handle ⟨true, 0, ⟨"."⟩, "master", "origin", "release-"⟩
      [(.branch, "release-1.0.0-rc"), (.tag, "release-1.0.0-rc")]
      (.start ⟨["release-1.0.0-rc"], ["release-1.0.0-rc"], ["refs/heads/master"], true, none,
        fun k => if k = .push then [none, some (.plain (.interrupted ""))] else []⟩)
    real.1 = .ok [.ok ⟨"release-1.0.0-rc", .branch, true, false⟩,
      .error (.plain (.interrupted ""))] ∧
    real.2.state.remoteRefs = ["refs/heads/master", "refs/heads/release-1.0.0-rc"] ∧
    dry.1 = .ok [.ok ⟨"release-1.0.0-rc", .branch, true, true⟩,
      .error (.plain (.interrupted ""))] ∧
    dry.2.state.remoteRefs = ["refs/heads/master"] := by
  have distinct : [(Ref.Kind.branch, "release-1.0.0-rc"), (.tag, "release-1.0.0-rc")].Nodup := by
    decide
  have rehearsed := release_rehearsed ⟨false, 0, ⟨"."⟩, "master", "origin", "release-"⟩
    ⟨["release-1.0.0-rc"], ["release-1.0.0-rc"], ["refs/heads/master"], true, none,
      fun k => if k = .push then [none, some (.plain (.interrupted ""))] else []⟩ distinct 2
  exact ⟨distinct, rfl, rfl, rehearsed.1, rehearsed.2.2.1⟩

end ReleaseRefs.Proofs.Publish
