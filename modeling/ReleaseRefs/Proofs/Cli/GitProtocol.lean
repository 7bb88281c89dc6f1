import ReleaseRefs.Cli.Run
import ReleaseRefs.Proofs.Git.Calls

/-!
# `ReleaseRefs.Proofs.Cli.GitProtocol`: what a run of the command line does with git

A run that publishes a ref opens the repository, checks the first branch out, looks for the ref,
asks the remote for it, pushes it if it is missing there, and gives the repository back. Each of
these can fail, and two of them are tried again. `run_protocol` lists all that can come of it, for
every command line, all files and variables, and any git.
-/

set_option autoImplicit false

namespace ReleaseRefs.Proofs.Cli

open ReleaseRefs.Cli ReleaseRefs.Git ReleaseRefs.Proofs.Git ReleaseRefs.Proofs.Publish
open ReleaseRefs.Publish (Session)

/-! ### The protocol -/

/-- The network commands for a ref that was found. A remote that is refused is not asked. The ref is
pushed if the last answer to `ls-remote` is a listing without it. -/
inductive Networked (config : Config) (kind : Ref.Kind) (name : String) : List Deed → Prop where
  | refused {d : Danger} (danger : danger? config.remote = some d) : Networked config kind name []
  | asked {count : Nat} {xs : List Deed} {r : Except Failure String}
      (bound : (count : Int) ≤ config.maxRetries + 1)
      (tries : Tries
        ["ls-remote", Repository.listingOption kind, config.remote, kind.fullRef name]
        Repository.usualTimeout count xs r)
      (present : ∀ out, r = .ok out → Repository.listingHas out (kind.fullRef name) = true) :
      Networked config kind name xs
  | pushed {count pushes : Nat} {xs ys : List Deed} {out : String} {r : Except Failure String}
      (bound : (count : Int) ≤ config.maxRetries + 1)
      (tries : Tries
        ["ls-remote", Repository.listingOption kind, config.remote, kind.fullRef name]
        Repository.usualTimeout count xs (.ok out))
      (absent : Repository.listingHas out (kind.fullRef name) = false)
      (pushBound : (pushes : Int) ≤ config.maxRetries + 1)
      (pushing : Tries
        (["push"] ++ (if config.dryRun then ["--dry-run"] else []) ++
          [config.remote, kind.fullRef name])
        Repository.usualTimeout pushes ys r) :
      Networked config kind name (xs ++ ys)

/-- All that is done with git to publish a ref. Once the repository is open, it is given back at the
end, and only there. -/
inductive Protocol (config : Config) (kind : Ref.Kind) (name : String) : List Deed → Prop where
  | unopened (f : Failure) : Protocol config kind name [.opened config.repoPath (.error f)]
  | unprepared (f : Failure) :
      Protocol config kind name
        [.opened config.repoPath (.ok ()), .ran ["checkout", config.defaultBranch] none (.error f),
          .closed]
  | missing {x : Deed} {r : Except Failure (List String)} (out : String)
      (looked : LookUp config kind x r) (missing : ∀ names, r = .ok names → name ∉ names) :
      Protocol config kind name
        [.opened config.repoPath (.ok ()), .ran ["checkout", config.defaultBranch] none (.ok out),
          x, .closed]
  | found {x : Deed} {names : List String} {xs : List Deed} (out : String)
      (looked : LookUp config kind x (.ok names)) (found : name ∈ names)
      (networked : Networked config kind name xs) :
      Protocol config kind name
        ([.opened config.repoPath (.ok ()), .ran ["checkout", config.defaultBranch] none (.ok out),
          x] ++ xs ++ [.closed])

/-! ### Publishing a ref -/

section Publishing

variable {γ : Type} (p : Program γ)

variable {config : Config} {s t : Session (Repository γ)}

/-- The network commands of a look-up that ends without a push. -/
theorem networked_of_remote {kind : Ref.Kind} {name : String} {s : Repository γ}
    (ready : Ready config Repository.usualTimeout s)
    (noPush : ∀ a, ((Repository.handle p).answer (remoteCall name kind) s).result = .ok a →
      isPresent name kind a = true) :
    ∃ xs, Networked config kind name xs ∧
      Did p s xs ((Repository.handle p).answer (remoteCall name kind) s).state := by
  have known := ready.maxRetries
  have ends := answer_remote_tries p s kind name
  rw [ready.remote, ready.timeout] at ends
  rcases ends with ⟨d, e, danger, -, did⟩ | ⟨count, xs, r, bound, tries, did, ends⟩
  · exact ⟨[], .refused danger, did⟩
  · refine ⟨xs, .asked (by omega) tries ?_, did⟩
    intro out printed
    rcases ends with ⟨f, e, rfl, -⟩ | ⟨out', a, rfl, result, same⟩
    · cases printed
    · obtain rfl := Except.ok.inj printed
      rw [← same]
      exact noPush a result

/-- The network commands of a look-up that does not find the ref, and of the push after it. -/
theorem networked_of_push {kind : Ref.Kind} {name : String} {s : Repository γ}
    (ready : Ready config Repository.usualTimeout s) {a : (remoteCall name kind).Answer}
    (answer : ((Repository.handle p).answer (remoteCall name kind) s).result = .ok a)
    (absent : isPresent name kind a = false) :
    ∃ xs, Networked config kind name xs ∧
      Did p s xs ((Repository.handle p).answer (.push (kind.fullRef name))
        ((Repository.handle p).answer (remoteCall name kind) s).state).state := by
  have known := ready.maxRetries
  have ends := answer_remote_tries p s kind name
  rw [ready.remote, ready.timeout] at ends
  rcases ends with ⟨d, e, -, refused, -⟩ | ⟨count, xs, r, bound, tries, did, ends⟩
  · cases answer.symm.trans refused
  · rcases ends with ⟨f, e, -, failed⟩ | ⟨out, a', rfl, result, same⟩
    · cases answer.symm.trans failed
    · obtain rfl := Except.ok.inj (answer.symm.trans result)
      have readyToPush := Did.ready did ready
      have knownToPush := readyToPush.maxRetries
      obtain ⟨pushes, ys, r, pushBound, pushing, pushed, -⟩ :=
        answer_push_tries p ((Repository.handle p).answer (remoteCall name kind) s).state
          (kind.fullRef name)
      rw [readyToPush.remote, readyToPush.timeout, readyToPush.dryRun] at pushing
      exact ⟨xs ++ ys, .pushed (by omega) tries (same.symm.trans absent) (by omega) pushing,
        did.append pushed⟩

/-- To publish a ref with an accepted name is to look for it locally, and if it is there, to do what
is to be done over the network. -/
theorem published_traced {kind : Ref.Kind} {name : String} {r : Except Raised Publish.Outcome}
    {v : Version} (good : Ref.check kind config.tagPrefix name = .ok v) (there : s.released = false)
    (ready : Ready config Repository.usualTimeout s.state)
    (published : Published (Repository.handle p) config kind name s (r, t)) :
    ∃ x l, LookUp config kind x l ∧
      (((∀ names, l = .ok names → name ∉ names) ∧ Traced p s.state [x] t.state) ∨
        ∃ names xs, l = .ok names ∧ name ∈ names ∧ Networked config kind name xs ∧
          Traced p s.state (x :: xs) t.state) := by
  obtain ⟨x, l, looked, lookUp, ends⟩ := answer_local_did p s.state config kind name
  refine ⟨x, l, lookUp, ?_⟩
  have listed {b : Bool} (answered : LocalSays (Repository.handle p) config kind name s b) :
      ∃ names, l = .ok names ∧ names.contains name = b := by
    obtain ⟨a, answer, rfl⟩ := answered
    rcases ends with ⟨f, e, -, failed⟩ | ⟨names, a', rfl, result, same⟩
    · cases answer.symm.trans failed
    · obtain rfl := Except.ok.inj (answer.symm.trans result)
      exact ⟨names, rfl, same.symm⟩
  have reached : Ready config Repository.usualTimeout
      (afterLocal (Repository.handle p) config kind name s).state :=
    Did.ready looked ready
  -- After the local look-up either nothing more is done, or the network is used.
  have stops (missing : ∀ names, l = .ok names → name ∉ names)
      (same : t.state = (afterLocal (Repository.handle p) config kind name s).state) :
      ((∀ names, l = .ok names → name ∉ names) ∧ Traced p s.state [x] t.state) := by
    rw [same]
    exact ⟨missing, looked.toTraced⟩
  have goes (found : LocalSays (Repository.handle p) config kind name s true)
      (networked : ∃ xs, Networked config kind name xs ∧
        Did p (afterLocal (Repository.handle p) config kind name s).state xs t.state) :
      ∃ names xs, l = .ok names ∧ name ∈ names ∧ Networked config kind name xs ∧
        Traced p s.state (x :: xs) t.state := by
    obtain ⟨names, listing, found⟩ := listed found
    obtain ⟨xs, networked, did⟩ := networked
    exact ⟨names, xs, listing, List.contains_iff_mem.1 found, networked,
      (looked.append did).toTraced⟩
  cases published with
  | refused bad => cases good.symm.trans bad
  | closed _ gone => cases there.symm.trans gone
  | localFailed _ _ failed =>
    refine .inl (stops (fun names listing => ?_) rfl)
    rcases ends with ⟨f, e, rfl, -⟩ | ⟨names, a, -, result, -⟩
    · cases listing
    · cases failed.symm.trans result
  | missing _ _ missing =>
    refine .inl (stops (fun names listing member => ?_) rfl)
    obtain ⟨names', listing', absent⟩ := listed missing
    obtain rfl := Except.ok.inj (listing.symm.trans listing')
    rw [List.contains_iff_mem.2 member] at absent
    cases absent
  | remoteFailed _ _ found failed =>
    refine .inr (goes found (networked_of_remote p reached fun a answer => ?_))
    cases failed.symm.trans answer
  | present _ _ found present =>
    refine .inr (goes found (networked_of_remote p reached fun a answer => ?_))
    obtain ⟨b, answer', there⟩ := present
    obtain rfl := Except.ok.inj (answer'.symm.trans answer)
    exact there
  | pushFailed _ _ found absent =>
    obtain ⟨a, answer, absent⟩ := absent
    exact .inr (goes found (networked_of_push p reached answer absent))
  | pushed _ _ found absent =>
    obtain ⟨a, answer, absent⟩ := absent
    exact .inr (goes found (networked_of_push p reached answer absent))

/-- The session in which the repository is opened. -/
def fresh (git : γ) : Session (Repository γ) := .start (.unopened git Repository.usualTimeout)

/-- A ref is published by a publisher that is then closed, if one is created. -/
theorem publishing_run (config : Config) (kind : Ref.Kind) (name : String) (git : γ) :
    Cli.publishing p config kind name git =
      match Publish.Publisher.create (Repository.handle p) config (fresh git) with
      | (.ok _, t) => Publish.Publisher.closing (Repository.handle p)
          (Publish.Publisher.publish (Repository.handle p) config kind name) t
      | (.error e, t) => (.error e, t) := by
  rw [Cli.publishing, bind_eq, fresh]
  rcases Publish.Publisher.create (Repository.handle p) config _ with ⟨_ | _, t⟩ <;> rfl

/-- To publish a ref with an accepted name, from opening the repository to giving it back, is to
keep to the protocol. -/
theorem publishing_protocol {kind : Ref.Kind} {name : String} {v : Version}
    (retries : 0 ≤ config.maxRetries) (good : Ref.check kind config.tagPrefix name = .ok v)
    (git : γ) :
    ∃ xs, Told p git xs (Cli.publishing p config kind name git).2.state.git ∧
      (Cli.publishing p config kind name git).2.state.actions = trace xs ∧
      Protocol config kind name xs := by
  suffices ∃ xs, Traced p (fresh git).state xs (Cli.publishing p config kind name git).2.state ∧
      Protocol config kind name xs by
    obtain ⟨xs, traced, protocol⟩ := this
    exact ⟨xs, traced.told, traced.actions, protocol⟩
  obtain ⟨xs, creating, ends⟩ := create_traced p (s := fresh git) retries rfl
  rw [publishing_run]
  rcases hc : Publish.Publisher.create (Repository.handle p) config (fresh git) with ⟨r, t⟩
  rw [hc] at creating ends
  rcases ends with ⟨f, e, rfl, rfl⟩ | ⟨f, e, rfl, rfl⟩ | ⟨out, rfl, rfl, there, ready⟩
  · exact ⟨_, creating, .unopened f⟩
  · exact ⟨_, creating, .unprepared f⟩
  · simp only [closing_snd]
    -- The repository is given back after publishing, and publishing itself does not do so.
    have kept := (publish_released (Repository.handle p) config kind name t).trans there
    have closed := (close_traced p kept).1.toTraced
    obtain ⟨x, l, looked, ends⟩ :=
      published_traced p good there ready (publish_published _ config kind name _)
    rcases ends with ⟨missing, published⟩ | ⟨names, xs, rfl, found, networked, published⟩
    · exact ⟨_, (creating.append published).append closed, .missing out looked missing⟩
    · exact ⟨_, (creating.append published).append closed, .found out looked found networked⟩

end Publishing

/-! ### Giving the repository back -/

/-- The tries of a command do not give the repository back. -/
theorem Tries.not_closed {words : List String} {timeout : Value} {count : Nat} {xs : List Deed}
    {r : Except Failure String} (tries : Tries words timeout count xs r) : Deed.closed ∉ xs := by
  induction tries with
  | last => simp
  | again _ _ ih => simpa using ih

section Giving

variable {config : Config} {kind : Ref.Kind} {name : String} {xs : List Deed}

/-- A local look-up does not give the repository back. -/
theorem LookUp.not_closed {x : Deed} {r : Except Failure (List String)}
    (looked : LookUp config kind x r) : Deed.closed ≠ x := by
  cases looked <;> exact nofun

/-- The network commands do not give the repository back. -/
theorem Networked.not_closed (networked : Networked config kind name xs) : Deed.closed ∉ xs := by
  cases networked with
  | refused => simp
  | asked _ tries => exact Tries.not_closed tries
  | pushed _ tries _ _ pushing =>
    rw [List.mem_append, not_or]
    exact ⟨Tries.not_closed tries, Tries.not_closed pushing⟩

/-- A repository that was opened is given back exactly once, by the last deed. -/
theorem Protocol.closes (protocol : Protocol config kind name xs) :
    (∃ f, xs = [.opened config.repoPath (.error f)]) ∨
      ∃ ys, xs = ys ++ [.closed] ∧ Deed.closed ∉ ys := by
  cases protocol with
  | unopened f => exact .inl ⟨f, rfl⟩
  | unprepared => exact .inr ⟨[_, _], rfl, by simp⟩
  | missing _ looked => exact .inr ⟨[_, _, _], rfl, by simp [LookUp.not_closed looked]⟩
  | found _ looked _ networked =>
    refine .inr ⟨_, rfl, ?_⟩
    rw [List.mem_append, not_or]
    exact ⟨by simp [LookUp.not_closed looked], networked.not_closed⟩

end Giving

/-! ### Runs of the command line -/

section Runs

variable {γ : Type}

/-- The ref that a command asks to publish, with the options for it. There is none if the words are
refused or ask for a page, or if the settings or what is said over them are refused. -/
def effectiveFor? (preface : Preface) (kind : Ref.Kind) (words : List String) (m : Machine γ) :
    Option (Config × Ref.Kind × String) := do
  let loaded := Settings.load m.surroundings preface.config
  let settings ← ((Cli.tell m.journal loaded.1).2.bind fun _ => loaded.2).toOption
  match CommandRequest.ofWords m.surroundings.files kind words with
  | .ok (.publish r) =>
    let config ← (settings.configFor r.overrides).toOption
    return (config, kind, r.name)
  | _ => none

/-- The ref that a command line asks to publish, with the options for it. There is none either if
the words before the command are refused. -/
def effective? (words : List String) (m : Machine γ) : Option (Config × Ref.Kind × String) :=
  if words.isEmpty then none
  else
    match Request.ofWords words with
    | .ok (.command preface kind rest) => effectiveFor? preface kind rest m
    | _ => none

/-- Settings that a run gets were loaded. -/
theorem loaded_of_bind {heard : Except Raised Unit} {loaded : Except Raised Settings}
    {settings : Settings} (got : (heard.bind fun _ => loaded) = .ok settings) :
    loaded = .ok settings := by
  cases heard with
  | error e => cases got
  | ok => exact got

/-- Where the options for a ref come from: the words ask to publish it, and what they say is put
over the settings. -/
theorem effective?_eq_some {words : List String} {m : Machine γ} {c : Config} {kind : Ref.Kind}
    {name : String} (asks : effective? words m = some (c, kind, name)) :
    ∃ preface rest settings r, Request.ofWords words = .ok (.command preface kind rest) ∧
      CommandRequest.ofWords m.surroundings.files kind rest = .ok (.publish r) ∧ r.name = name ∧
      (Settings.load m.surroundings preface.config).2 = .ok settings ∧
      settings.configFor r.overrides = .ok c := by
  unfold effective? at asks
  split at asks
  · cases asks
  split at asks
  · next preface kind' rest request =>
    simp only [effectiveFor?, Option.bind_eq_bind, Option.bind_eq_some_iff] at asks
    obtain ⟨settings, got, asks⟩ := asks
    split at asks
    · next r asked =>
      simp only [Option.bind_eq_some_iff] at asks
      obtain ⟨config, said, same⟩ := asks
      cases same
      exact ⟨preface, rest, settings, r, request, asked, rfl,
        loaded_of_bind (ok_of_toOption got), ok_of_toOption said⟩
    · cases asks
  · cases asks

/-- Nothing was done with git. -/
structure Idle (git : γ) (actions : List Action) (after : γ) : Prop where
  actions : actions = []
  git : after = git

/-- What was done with git keeps to the protocol. -/
structure Follows (p : Program γ) (config : Config) (kind : Ref.Kind) (name : String) (git : γ)
    (actions : List Action) (after : γ) (xs : List Deed) : Prop where
  told : Told p git xs after
  actions : actions = trace xs
  protocol : Protocol config kind name xs
  closes : (∃ f, xs = [.opened config.repoPath (.error f)]) ∨
    ∃ ys, xs = ys ++ [.closed] ∧ Deed.closed ∉ ys

/-- What was done with git for a ref to publish, if there is one: nothing if its name is refused,
and else what keeps to the protocol. -/
def Obeys (p : Program γ) (git : γ) (actions : List Action) (after : γ) :
    Option (Config × Ref.Kind × String) → Prop
  | none => Idle git actions after
  | some (config, kind, name) =>
    match Ref.check kind config.tagPrefix name with
    | .error _ => Idle git actions after
    | .ok _ => ∃ xs, Follows p config kind name git actions after xs

variable (p : Program γ) (program : String)

/-- A run without a request does nothing with git. -/
theorem withoutRequest_actions (c : Command) (e : UsageError) :
    (withoutRequest program c e).actions = [] := by
  unfold withoutRequest
  cases e with
  | unfitPath value =>
    simp only
    split <;> rfl
  | _ => rfl

/-- A run without settings does nothing with git. -/
theorem withoutSettings_actions (told : List Output) (r : Raised) :
    (withoutSettings told r).actions = [] := by
  unfold withoutSettings
  split
  · split <;> rfl
  · rfl

/-- What a command does with git on settings that are sound. -/
theorem runCommand_protocol (j : Log.Journal) {settings : Settings}
    (sound : settings.config.Sound) (kind : Ref.Kind) (r : PublishRequest) (t : Tools γ) :
    Obeys p t.git (runCommand p j settings kind r t).1.actions
      (runCommand p j settings kind r t).2.git
      ((settings.configFor r.overrides).toOption.map fun config => (config, kind, r.name)) := by
  unfold runCommand
  cases configured : settings.configFor r.overrides with
  | error e => exact ⟨rfl, rfl⟩
  | ok config =>
    show Obeys p t.git _ _ (some (config, kind, r.name))
    unfold Obeys
    cases good : Ref.check kind config.tagPrefix r.name with
    | error e =>
      simp only [good]
      exact ⟨rfl, rfl⟩
    | ok v =>
      simp only [good]
      have retries := (Settings.configFor_sound sound configured).retries
      obtain ⟨xs, told, actions, protocol⟩ := publishing_protocol p retries good t.git
      exact ⟨xs, told, actions, protocol, protocol.closes⟩

/-- What a command does with git on settings that are still to be read. -/
theorem runKind_protocol (preface : Preface) (kind : Ref.Kind) (words : List String)
    (m : Machine γ) :
    Obeys p m.git (runKind p program preface kind words m).1.actions
      (runKind p program preface kind words m).2.git (effectiveFor? preface kind words m) := by
  unfold effectiveFor? runKind
  simp only
  cases loaded : (Cli.tell m.journal (Settings.load m.surroundings preface.config).1).2.bind
    fun _ => (Settings.load m.surroundings preface.config).2 with
  | error e => exact ⟨withoutSettings_actions _ _, rfl⟩
  | ok settings =>
    simp only [Except.toOption, Option.bind_eq_bind, Option.bind_some]
    unfold runWords
    cases asked : CommandRequest.ofWords m.surroundings.files kind words with
    | error e => exact ⟨withoutRequest_actions program (.publish kind) e, rfl⟩
    | ok request =>
      cases request with
      | page page => exact ⟨rfl, rfl⟩
      | publish r =>
        -- Settings that were read have passed their checks, so there are no negative retries.
        have sound : settings.config.Sound := Settings.load_sound (loaded_of_bind loaded)
        have obeys := runCommand_protocol p
          (m.journal.setAt m.surroundings.environment false (threshold preface settings)) sound kind
          r m.toTools
        simp only
        cases configured : settings.configFor r.overrides <;> rw [configured] at obeys
        · exact obeys
        · exact obeys

/-- What a run of the command line does with git keeps to the protocol.

For every command line, all files and variables, and every git, whatever it answers and however it
fails:

- if there is no ref to publish, or its name is refused, then nothing is done with git;
- otherwise the deeds keep to `Protocol`: they are a failed opening, or they end with giving back
  the repository, which happens nowhere else. In between stand a checkout, the local look-up, up to
  one more `ls-remote` than there are retries, and up to as many pushes after an answer without the
  ref. -/
theorem run_protocol (words : List String) (m : Machine γ) :
    Obeys p m.git (Cli.run p program words m).1.actions (Cli.run p program words m).2.git
      (effective? words m) := by
  unfold effective? Cli.run
  by_cases empty : words.isEmpty
  · simp only [empty, if_true]
    exact ⟨rfl, rfl⟩
  · simp only [empty, Bool.false_eq_true, if_false]
    cases Request.ofWords words with
    | error e => exact ⟨withoutRequest_actions program .tool e, rfl⟩
    | ok request =>
      cases request with
      | page page => exact ⟨rfl, rfl⟩
      | command preface kind rest =>
        simp only
        exact runKind_protocol p program preface kind rest m

-- The words after a command set the options: here the push is not a simulated one.
example :
    effective? ["tag", "v1.0.0", "--no-dry-run"]
      (⟨⟨(), .blank⟩, ⟨⟨⟨"/w"⟩, []⟩, [("HOME", "/h")]⟩, .fresh, none⟩ : Machine Unit) =
      some (⟨false, 3, ⟨"/w"⟩, "master", "origin", "v"⟩, .tag, "v1.0.0") := by
  decide +kernel

end Runs

end ReleaseRefs.Proofs.Cli
