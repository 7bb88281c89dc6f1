import ReleaseRefs.Proofs.Git.Calls
import ReleaseRefs.Proofs.Git.Listing
import ReleaseRefs.Proofs.Publish.Memory
import ReleaseRefs.Proofs.Publish.Simulation

/-!
# `ReleaseRefs.Proofs.Git.Refinement`: the repository behind git is one in memory

A publisher cannot tell the repository that it reaches through git from one in memory with the same
branches, tags and refs of the remote, as long as git does what it is documented to do.

- `Serves` lists what is expected of git: what each command prints, and that only pushes change the
  refs of the remote.
- `Mirrors` relates the repository in memory to the one behind git. `mirrors_agree` has one case for
  each question that a publisher asks: git is asked, what it prints is read, and the answer is the
  one from memory.
- `git_refines_memory` puts that together for runs of any length, and `refused_remote_differs` says
  why it asks for a remote that is not refused.
-/

set_option autoImplicit false

namespace ReleaseRefs.Proofs.Git

open ReleaseRefs.Git ReleaseRefs.Publish ReleaseRefs.Publish.Publisher ReleaseRefs.Proofs.Publish

variable {γ : Type}

/-! ### What is expected of git -/

/-- A ref of the remote matches another one: it is the same, or it ends in the same parts. -/
def matchesTail (ref r : String) : Prop := r = ref ∨ ("/" ++ ref).toList <:+ r.toList

/-- Git does what is expected of it for a configuration. It has the branches and tags, and in each
of its states the remote has some refs.

- The place is a repository, and the first branch can be checked out.
- The tags are printed one a line.
- For a ref, a row is printed for refs of the remote that match it, and for the ref itself if the
  remote has it. A row is an identifier, a tab and the ref.
- A push adds its ref to those of the remote, and a simulated push does not. -/
structure Serves (p : Program γ) (config : Config) (branches tags : List String)
    (refs : γ → List String) : Prop where
  opens : ∀ g, (p.opens config.repoPath g).1 = .ok () ∧
    refs (p.opens config.repoPath g).2 = refs g
  checkout : ∀ g, (∃ out, (p.run ["checkout", config.defaultBranch] g).1 = .ok out) ∧
    refs (p.run ["checkout", config.defaultBranch] g).2 = refs g
  branches : ∀ g, (p.branches g).1 = .ok branches ∧ refs (p.branches g).2 = refs g
  tags : ∀ g,
    (∃ out, (p.run ["tag", "--sort=-v:refname", "--merged", config.defaultBranch] g).1 = .ok out ∧
      Prints out tags) ∧
    refs (p.run ["tag", "--sort=-v:refname", "--merged", config.defaultBranch] g).2 = refs g
  listing : ∀ g kind ref,
    (∃ (out : String) (rows : List String) (oid : String → String),
      (p.run ["ls-remote", Repository.listingOption kind, config.remote, ref] g).1 = .ok out ∧
      Prints out (rows.map fun r => oid r ++ "\t" ++ r) ∧ (∀ r, Plain (oid r)) ∧
      (∀ r ∈ rows, r ∈ refs g ∧ matchesTail ref r) ∧ (ref ∈ refs g → ref ∈ rows)) ∧
    refs (p.run ["ls-remote", Repository.listingOption kind, config.remote, ref] g).2 = refs g
  push : ∀ g ref, (∃ out, (p.run ["push", config.remote, ref] g).1 = .ok out) ∧
    ∀ x, x ∈ refs (p.run ["push", config.remote, ref] g).2 ↔ x ∈ refs g ∨ x = ref
  simulates : ∀ g ref, (∃ out, (p.run ["push", "--dry-run", config.remote, ref] g).1 = .ok out) ∧
    refs (p.run ["push", "--dry-run", config.remote, ref] g).2 = refs g

/-- The names of a kind that the local repository has. -/
def offered (branches tags : List String) : Ref.Kind → List String
  | .branch => branches
  | .tag => tags

/-- The repository in memory and the one behind git have the same refs and the same options. -/
structure Mirrors (config : Config) (branches tags : List String) (refs : γ → List String)
    (m : Memory) (s : Repository γ) : Prop where
  faultless : Faultless m
  branches : m.branches = branches
  tags : m.tags = tags
  mode : m.dryRun = config.dryRun
  dryRun : s.dryRun = config.dryRun
  remote : s.remote = config.remote
  remoteRefs : ∀ x, x ∈ refs s.git ↔ x ∈ m.remoteRefs
  plain : ∀ x ∈ refs s.git, Plain x

/-- The repository in memory has the names that are offered. -/
theorem Mirrors.hasLocal {config : Config} {branches tags : List String} {refs : γ → List String}
    {m : Memory} {s : Repository γ} (mirrors : Mirrors config branches tags refs m s)
    (kind : Ref.Kind) (name : String) :
    HasLocal m kind name ↔ name ∈ offered branches tags kind := by
  cases kind with
  | branch => rw [HasLocal, mirrors.branches, offered]
  | tag => rw [HasLocal, mirrors.tags, offered]

section Serving

variable {p : Program γ} {config : Config} {branches tags : List String} {refs : γ → List String}

/-- Calls that leave the refs alone on both sides keep the mirror. -/
theorem Mirrors.kept {m : Memory} {s t : Repository γ} {xs : List Deed}
    (mirrors : Mirrors config branches tags refs m s) {c : Call} (noPush : c.method ≠ .push)
    (noMode : c.method ≠ .setDryRun) (did : Did p s xs t) (same : refs t.git = refs s.git) :
    Mirrors config branches tags refs (Memory.handle.answer c m).state t where
  faultless := (answer_faultless mirrors.faultless c).2
  branches := (answer_keeps m noPush).branches.trans mirrors.branches
  tags := (answer_keeps m noPush).tags.trans mirrors.tags
  mode := (answer_dryRun m noMode).trans mirrors.mode
  dryRun := did.dryRun.trans mirrors.dryRun
  remote := did.remote.trans mirrors.remote
  remoteRefs x := by
    rw [same, (answer_keeps m noPush).remoteRefs]
    exact mirrors.remoteRefs x
  plain x := by
    rw [same]
    exact mirrors.plain x

/-- The local look-up lists the names that git has, and leaves the remote alone. -/
theorem Serves.lookUp (serves : Serves p config branches tags refs)
    (plainTags : ∀ t ∈ tags, Plain t) {kind : Ref.Kind} {x : Deed}
    {r : Except Failure (List String)} {f g : γ} (looked : LookUp config kind x r)
    (answered : Answers p f x g) :
    refs g = refs f ∧ ∃ names, r = .ok names ∧
      ∀ name, name ≠ "" → (name ∈ names ↔ name ∈ offered branches tags kind) := by
  cases looked with
  | branch =>
    obtain ⟨listed, same⟩ := serves.branches f
    cases answered
    exact ⟨same, branches, listed, fun _ _ => Iff.rfl⟩
  | tag r =>
    obtain ⟨⟨out, printed, prints⟩, same⟩ := serves.tags f
    cases answered
    refine ⟨same, Repository.namesIn out, by rw [printed]; rfl, fun name some => ?_⟩
    exact mem_namesIn prints plainTags some

/-- The remote look-up lists a ref exactly if the remote has it, and leaves the remote alone. -/
theorem Serves.listed (serves : Serves p config branches tags refs) {f : γ}
    (plain : ∀ x ∈ refs f, Plain x) (kind : Ref.Kind) (ref : String) :
    (∃ out, (p.run (listWords kind config.remote ref) f).1 = .ok out ∧
      (Repository.listingHas out ref = true ↔ ref ∈ refs f)) ∧
    refs (p.run (listWords kind config.remote ref) f).2 = refs f := by
  obtain ⟨⟨out, rows, oid, printed, prints, plainOid, known, itself⟩, same⟩ :=
    serves.listing f kind ref
  refine ⟨⟨out, printed, ?_⟩, same⟩
  rw [listingHas_iff prints plainOid fun r row => plain r (known r row).1]
  exact ⟨fun row => (known ref row).1, itself⟩

/-- A push adds its ref to those of the remote, unless it is simulated. -/
theorem Serves.pushes (serves : Serves p config branches tags refs) (f : γ) (ref : String) :
    (∃ out, (p.run (Repository.pushWords config.dryRun config.remote ref) f).1 = .ok out) ∧
    ∀ x, x ∈ refs (p.run (Repository.pushWords config.dryRun config.remote ref) f).2 ↔
      x ∈ refs f ∨ (config.dryRun = false ∧ x = ref) := by
  cases config.dryRun with
  | false =>
    obtain ⟨succeeds, grows⟩ := serves.push f ref
    exact ⟨succeeds, fun x => (grows x).trans (by simp)⟩
  | true =>
    obtain ⟨succeeds, same⟩ := serves.simulates f ref
    refine ⟨succeeds, fun x => ?_⟩
    show x ∈ refs (p.run ["push", "--dry-run", config.remote, ref] f).2 ↔ _
    rw [same]
    simp

/-! ### Question by question -/

section Questions

/-- Both repositories are given back. -/
theorem close_mirrors :
    Same (Mirrors config branches tags refs) (fun _ => True) (Work.call Memory.handle .close)
      (Work.call (Repository.handle p) .close) := by
  intro s t linked
  obtain ⟨did, closed⟩ := answer_close_did p t.state
  have served := (answer_faultless linked.states.faultless .close).1
  have same : refs ((Repository.handle p).answer .close t.state).state.git = refs t.state.git := by
    rw [did.told.single.closed_eq]
  rw [call_run, call_run, served, closed]
  refine ⟨rfl, ⟨?_, linked.released⟩, fun _ _ => trivial⟩
  exact linked.states.kept (by simp [Call.method]) (by simp [Call.method]) did same

variable (serves : Serves p config branches tags refs)

include serves

/-- Both repositories find a ref locally, or neither does. What is found has a plain name. -/
theorem isLocal_mirrors (plainBranches : ∀ b ∈ branches, Plain b) (plainTags : ∀ t ∈ tags, Plain t)
    {kind : Ref.Kind} {name : String} {v : Version}
    (good : Ref.check kind config.tagPrefix name = .ok v) :
    Same (Mirrors config branches tags refs) (fun found => found = true → Plain name)
      (isLocal Memory.handle config kind name)
      (isLocal (Repository.handle p) config kind name) := by
  intro s t linked
  obtain ⟨noPush, noMode⟩ := localCall_method config name kind
  obtain ⟨x, r, did, lookUp, ends⟩ := answer_local_did p t.state config kind name
  obtain ⟨same, names, rfl, offers⟩ := serves.lookUp plainTags lookUp did.told.single
  have served := (answer_faultless linked.states.faultless (localCall config name kind)).1
  generalize (Memory.serve _ (localCall config name kind)).1 = a at served
  rcases ends with ⟨f, e, failed, -⟩ | ⟨names', b, listed, answer, found⟩
  · cases failed
  obtain rfl := Except.ok.inj listed
  -- Both look for the name among those that are offered: one in its row, one in what git prints.
  have mine := (answer_local served).trans (linked.states.hasLocal kind name)
  have theirs : isFound config name kind b = true ↔ name ∈ offered branches tags kind := by
    rw [found, List.contains_iff_mem]
    -- A printed list cannot hold the empty name, but that name is not accepted either.
    exact offers name (Ref.check_ne_empty good)
  rw [isLocal_run, isLocal_run, served, answer]
  refine ⟨?_, ⟨linked.states.kept noPush noMode did same, linked.released⟩, ?_⟩
  · exact congrArg Except.ok (Bool.eq_iff_iff.2 (theirs.trans mine.symm))
  · intro known same isThere
    obtain rfl := Except.ok.inj same
    cases kind with
    | branch => exact plainBranches name (mine.1 isThere)
    | tag => exact plainTags name (mine.1 isThere)

/-- Both remotes have a ref, or neither does. -/
theorem isRemote_mirrors (safe : danger? config.remote = none) (kind : Ref.Kind) (name : String) :
    Same (Mirrors config branches tags refs) (fun _ => True)
      (isRemote Memory.handle config kind name)
      (isRemote (Repository.handle p) config kind name) := by
  intro s t linked
  obtain ⟨noPush, noMode⟩ := remoteCall_method name kind
  obtain ⟨⟨out, printed, lists⟩, same⟩ :=
    serves.listed linked.states.plain kind (kind.fullRef name)
  have served := (answer_faultless linked.states.faultless (remoteCall name kind)).1
  generalize (Memory.serve _ (remoteCall name kind)).1 = a at served
  have tries := answer_remote_tries p t.state kind name
  rw [linked.states.remote] at tries
  rcases tries with ⟨d, e, danger, -⟩ | ⟨count, xs, r, -, tries, did, ends⟩
  · cases safe.symm.trans danger
  obtain ⟨rfl, after⟩ := tries.once did.told printed
  rcases ends with ⟨f, e, failed, -⟩ | ⟨out', b, listed, answer, present⟩
  · cases failed
  obtain rfl := Except.ok.inj listed
  have theirs : isPresent name kind b = true ↔ kind.fullRef name ∈ s.state.remoteRefs := by
    rw [present, lists]
    exact linked.states.remoteRefs _
  rw [isRemote_run, isRemote_run, served, answer]
  refine ⟨?_, ⟨linked.states.kept noPush noMode did (after ▸ same), linked.released⟩,
    fun _ _ => trivial⟩
  exact congrArg Except.ok (Bool.eq_iff_iff.2 (theirs.trans (answer_remote served).symm))

/-- Both repositories push a ref with a plain name. -/
theorem push_mirrors {kind : Ref.Kind} {name : String} (plain : Plain name) :
    Same (Mirrors config branches tags refs) (fun _ => True)
      (Work.call Memory.handle (.push (kind.fullRef name)))
      (Work.call (Repository.handle p) (.push (kind.fullRef name))) := by
  intro s t linked
  obtain ⟨⟨out, printed⟩, grows⟩ := serves.pushes t.state.git (kind.fullRef name)
  have served := (answer_faultless linked.states.faultless (.push (kind.fullRef name))).1
  obtain ⟨sameBranches, sameTags, remoteRefs⟩ := answer_push served
  have tries := answer_push_tries p t.state (kind.fullRef name)
  rw [linked.states.remote, linked.states.dryRun] at tries
  obtain ⟨count, xs, r, -, tries, did, ends⟩ := tries
  obtain ⟨rfl, after⟩ := tries.once did.told printed
  have known (x : String) :
      x ∈ (asked Memory.handle (.push (kind.fullRef name)) s).state.remoteRefs ↔
        x ∈ s.state.remoteRefs ∨ (config.dryRun = false ∧ x = kind.fullRef name) := by
    rw [asked_state, remoteRefs, linked.states.mode]
    cases config.dryRun <;> simp
  have grows (x : String) := after ▸ grows x
  rw [call_run, call_run, served, ends.2 ⟨out, rfl⟩]
  refine ⟨rfl, ⟨?_, linked.released⟩, fun _ _ => trivial⟩
  refine {
    faultless := (answer_faultless linked.states.faultless _).2
    branches := sameBranches.trans linked.states.branches
    tags := sameTags.trans linked.states.tags
    mode := (answer_dryRun s.state (by simp [Call.method])).trans linked.states.mode
    dryRun := did.dryRun.trans linked.states.dryRun
    remote := did.remote.trans linked.states.remote
    remoteRefs := fun x => ?_
    plain := fun x member => ?_ }
  · rw [known, ← linked.states.remoteRefs x]
    exact grows x
  · rcases (grows x).1 member with old | ⟨-, rfl⟩
    · exact linked.states.plain x old
    · exact plain.fullRef kind

/-- The two repositories agree on all that a publisher asks. -/
theorem mirrors_agree (safe : danger? config.remote = none)
    (plainBranches : ∀ b ∈ branches, Plain b) (plainTags : ∀ t ∈ tags, Plain t) :
    Agree Memory.handle (Repository.handle p) config (Mirrors config branches tags refs)
      fun _ name => Plain name where
  isLocal _ _ _ good := isLocal_mirrors serves plainBranches plainTags good
  isRemote := isRemote_mirrors serves safe
  push _ _ plain := push_mirrors serves plain
  close := close_mirrors

end Questions

/-! ### Runs -/

/-- A publisher is created over git that does what is expected of it, and the remote is left
alone. -/
theorem Serves.created (serves : Serves p config branches tags refs)
    (retries : 0 ≤ config.maxRetries) {s : Session (Repository γ)} (there : s.released = false) :
    ∃ t, create (Repository.handle p) config s = (.ok (), t) ∧ t.released = false ∧
      t.state.remote = config.remote ∧ t.state.dryRun = config.dryRun ∧
      refs t.state.git = refs s.state.git := by
  obtain ⟨opens, afterOpening⟩ := serves.opens s.state.git
  obtain ⟨⟨out, checkout⟩, afterCheckout⟩ := serves.checkout (p.opens config.repoPath s.state.git).2
  obtain ⟨xs, traced, ends⟩ := create_traced p retries there
  rcases hc : create (Repository.handle p) config s with ⟨r, t⟩
  rw [hc] at traced ends
  rcases ends with ⟨f, e, rfl, -⟩ | ⟨f, e, rfl, -⟩ | ⟨out, rfl, rfl, kept, ready⟩
  · cases traced.told.single.opened_eq.1.trans opens
  · obtain ⟨g, first, rest⟩ := traced.told.uncons
    obtain ⟨-, rfl⟩ := first.opened_eq
    obtain ⟨_, second, -⟩ := rest.uncons
    cases second.ran_eq.1.trans checkout
  · obtain ⟨g, first, rest⟩ := traced.told.uncons
    obtain ⟨-, rfl⟩ := first.opened_eq
    refine ⟨t, rfl, kept, ready.remote, ready.dryRun, ?_⟩
    rw [rest.single.ran_eq.2, afterCheckout, afterOpening]

end Serving

/-- The demands are met over the repository in memory and over the one behind git with the same
results, and after each of them the remotes have the same refs. At first both have the same
branches, tags and refs of the remote. -/
def Indistinguishable (p : Program γ) (config : Config) (branches tags : List String)
    (refs : γ → List String) (git : γ) (demands : List Demand) : Prop :=
  ∀ (dryRun : Bool) (timeout : Value),
    let inMemory (ds : List Demand) := run Memory.handle config (ds.map Demand.step)
      (.start ⟨branches, tags, refs git, dryRun, none, fun _ => []⟩)
    let behindGit (ds : List Demand) := run (Repository.handle p) config
      (ds.map Demand.step) (.start (.unopened git timeout))
    (∃ results, (inMemory demands).1 = .ok results ∧ (behindGit demands).1 = .ok results) ∧
      ∀ i x, x ∈ refs (behindGit (demands.take i)).2.state.git ↔
        x ∈ (inMemory (demands.take i)).2.state.remoteRefs

/-- The repository behind git refines the one in memory.

Git does what is expected of it, and all its names are free of white space. The remote is none that
is refused before git is asked. Then every run has the same results over both repositories, step by
step: outcomes and failures alike. After each step the remotes have the same refs. -/
theorem git_refines_memory {p : Program γ} {config : Config} {branches tags : List String}
    {refs : γ → List String} (serves : Serves p config branches tags refs)
    (retries : 0 ≤ config.maxRetries) (safe : danger? config.remote = none)
    (plainBranches : ∀ b ∈ branches, Plain b) (plainTags : ∀ t ∈ tags, Plain t) {git : γ}
    (plainRefs : ∀ r ∈ refs git, Plain r) (demands : List Demand) :
    Indistinguishable p config branches tags refs git demands := by
  intro dryRun timeout inMemory behindGit
  let m : Memory := ⟨branches, tags, refs git, dryRun, none, fun _ => []⟩
  obtain ⟨s, created, faultless⟩ := create_faultless config (s := .start m) rfl fun _ => rfl
  have untouched := create_untouched config (.start m)
  rw [created] at untouched
  obtain ⟨there, mode⟩ := create_ready created
  obtain ⟨t, created', there', remote, dry, same⟩ :=
    serves.created retries (s := .start (.unopened git timeout)) rfl
  have mirrors : Mirrors config branches tags refs s.state t.state :=
    { faultless, remote
      branches := untouched.keeps.branches
      tags := untouched.keeps.tags
      mode := mode
      dryRun := dry
      remoteRefs := fun x => by rw [same, untouched.keeps.remoteRefs]; exact Iff.rfl
      plain := fun x => by rw [same]; exact plainRefs x }
  have runs (ds : List Demand) :=
    run_same (mirrors_agree serves safe plainBranches plainTags) ds created created'
      ⟨mirrors, there'.trans there.symm⟩
  refine ⟨?_, fun i => ?_⟩
  · obtain ⟨results, memory, repository, -⟩ := runs demands
    exact ⟨results, memory, repository⟩
  · obtain ⟨_, -, -, linked⟩ := runs (demands.take i)
    exact linked.states.remoteRefs

/-! ### A git that does what is expected of it -/

instance (ref r : String) : Decidable (matchesTail ref r) :=
  inferInstanceAs (Decidable (_ ∨ _))

/-- A git that has some branches and tags, and the refs of a remote in its state. -/
def keeping (branches tags : List String) : Program (List String) where
  opens _ g := (.ok (), g)
  branches g := (.ok branches, g)
  run words g :=
    match words with
    | "tag" :: _ => (.ok ("\n".intercalate tags), g)
    | ["ls-remote", _, _, ref] =>
      (.ok ("\n".intercalate
        ((g.filter fun r => decide (matchesTail ref r)).map fun r => "5b2c1f0" ++ "\t" ++ r)), g)
    | ["push", _, ref] => (.ok "", if ref ∈ g then g else g ++ [ref])
    -- A simulated push has one word more.
    | _ => (.ok "", g)

/-- It does what is expected of git, for every configuration. -/
theorem keeping_serves (config : Config) (branches tags : List String) :
    Serves (keeping branches tags) config branches tags id where
  opens _ := ⟨rfl, rfl⟩
  checkout _ := ⟨⟨_, rfl⟩, rfl⟩
  branches _ := ⟨rfl, rfl⟩
  tags _ := ⟨⟨_, rfl, .inl rfl⟩, rfl⟩
  listing g kind ref := by
    refine ⟨⟨_, _, fun _ => "5b2c1f0", rfl, .inl rfl, ?_, ?_, ?_⟩, rfl⟩
    · intro _
      show Plain "5b2c1f0"
      decide
    · intro r row
      simpa using List.mem_filter.1 row
    · intro member
      exact List.mem_filter.2 ⟨member, decide_eq_true (.inl rfl)⟩
  push g ref := by
    refine ⟨⟨_, rfl⟩, fun x => ?_⟩
    show x ∈ (if ref ∈ g then g else g ++ [ref]) ↔ x ∈ g ∨ x = ref
    split
    · next old => exact ⟨.inl, fun h => h.elim id fun same => same ▸ old⟩
    · simp
  simulates _ _ := ⟨⟨_, rfl⟩, rfl⟩

/-- A branch and a tag are published, the branch twice, and then once more after the repository was
given back. The remote has a ref that only ends like the branch. -/
theorem git_refines_memory_keeping :
    Indistinguishable (keeping ["release-1.0"] ["v1.0.0"])
      ⟨false, 3, ⟨"."⟩, "master", "origin", "v"⟩ ["release-1.0"] ["v1.0.0"] id
      ["refs/heads/old/refs/heads/release-1.0"]
      [.publish .branch "release-1.0", .publish .tag "v1.0.0", .publish .branch "release-1.0",
        .close, .publish .branch "release-1.0"] :=
  git_refines_memory (keeping_serves _ _ _) (by decide) (by decide)
    (by decide) (by decide) (by decide) _

/-- A remote that is refused tells the two repositories apart: memory says that it would push, and
the repository behind git fails before git is asked. -/
theorem refused_remote_differs :
    Config.Sound ⟨true, 3, ⟨"."⟩, "master", "ext::x", "v"⟩ ∧
    Serves (keeping ["release-1.0"] []) ⟨true, 3, ⟨"."⟩, "master", "ext::x", "v"⟩ ["release-1.0"] []
      id ∧
    (∀ b ∈ ["release-1.0"], Plain b) ∧
    ¬ Indistinguishable (keeping ["release-1.0"] []) ⟨true, 3, ⟨"."⟩, "master", "ext::x", "v"⟩
      ["release-1.0"] [] id [] [.publish .branch "release-1.0"] := by
  refine ⟨⟨by decide, by decide, by decide⟩, keeping_serves _ _ _, by decide, ?_⟩
  intro same
  obtain ⟨⟨results, memory, repository⟩, -⟩ := same false .null
  have pushed : results = [.ok (.outcome ⟨"release-1.0", .branch, true, true⟩)] :=
    (Except.ok.inj memory).symm
  have refused : ∃ e, results = [.error e] := ⟨_, (Except.ok.inj repository).symm⟩
  obtain ⟨e, refused⟩ := refused
  cases pushed.symm.trans refused

end ReleaseRefs.Proofs.Git
