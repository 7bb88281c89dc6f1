import ReleaseRefs.Proofs.Cli.GitProtocol
import ReleaseRefs.Proofs.Git.Commands
import ReleaseRefs.Proofs.Git.Refinement
import ReleaseRefs.Proofs.Publish.PushSafety

/-!
# `ReleaseRefs.Proofs.Cli.Preconditions`: options meet what a repository expects

A repository refuses a negative number of retries, and git makes nothing of a blank remote or
branch. The options of a run are checked where they are read, and no way of getting options leads
around the checks. So a repository never meets such options.

- `Obtained` lists the ways of getting options. All of them are sound (`Obtained.sound`).
- `Row` is a call of a publisher with what it put on the trace, `Fits` says that both are made from
  the options. `Steady` is the invariant once the repository was prepared: its terms stay those of
  the options, and every new row fits. It holds from the start of each step to its end
  (`perform_steady`), by induction on the step.
- `obtained_options_fit` has a whole run of a publisher with options that were obtained.
  `refused_remote_has_no_attempt`: a remote that is refused is the one that is not asked at all.
-/

set_option autoImplicit false

namespace ReleaseRefs.Proofs.Cli

open ReleaseRefs.Cli ReleaseRefs.Git ReleaseRefs.Proofs.Git ReleaseRefs.Proofs.Publish
open ReleaseRefs.Publish (Call Exchange Session Step Work)
open ReleaseRefs.Publish.Publisher

/-! ### Ways of getting options -/

/-- Options that were obtained: validated as a mapping, loaded from files and variables, with
something said over settings that were obtained, or with the words of a command line. -/
inductive Obtained : Config → Prop where
  | validated {workingDirectory : Path} {v : Value} {c : Config}
      (read : Config.ofValue workingDirectory v = .ok c) : Obtained c
  | loaded {w : Surroundings} {chosen : Option Path} {s : Settings}
      (read : (Settings.load w chosen).2 = .ok s) : Obtained s.config
  | said {s : Settings} {overrides : List (String × Value)} {c : Config}
      (settings : Obtained s.config) (read : s.configFor overrides = .ok c) : Obtained c
  | commandLine {γ : Type} {words : List String} {m : Machine γ} {c : Config} {kind : Ref.Kind}
      {name : String} (asks : effective? words m = some (c, kind, name)) : Obtained c

/-- Options that were obtained have passed the checks. -/
theorem Obtained.sound {c : Config} (obtained : Obtained c) : c.Sound := by
  induction obtained with
  | validated read => exact Config.ofValue_sound read
  | loaded read => exact Settings.load_sound read
  | said _ read sound => exact Settings.configFor_sound sound read
  | commandLine asks =>
    obtain ⟨_, _, _, _, -, -, -, loaded, read⟩ := effective?_eq_some asks
    exact Settings.configFor_sound (Settings.load_sound loaded) read

/-- The text has a character that is no blank. -/
def NotBlank (s : String) : Prop := ∃ c ∈ s.toList, Text.isBlank c = false

theorem notBlank_of_isBlankText {s : String} (written : Text.isBlankText s = false) :
    NotBlank s := by
  obtain ⟨c, member, shows⟩ := List.all_eq_false.1 written
  exact ⟨c, member, eq_false_of_ne_true shows⟩

/-! ### Rows -/

/-- A call of a publisher, with what it put on the trace. -/
structure Row where
  exchange : Exchange
  trace : List Action

/-- The call is made from the options: it is about the branch that they name, and they are handed
over without a failure. -/
def MadeFrom (config : Config) : Exchange → Prop
  | ⟨.checkout branch, _⟩ => branch = config.defaultBranch
  | ⟨.setDryRun b, r⟩ => b = config.dryRun ∧ r = .ok ()
  | ⟨.setMaxRetries n, r⟩ => n = config.maxRetries ∧ r = .ok ()
  | ⟨.tagsOnBranch branch, _⟩ => branch = config.defaultBranch
  | _ => True

/-- The terms that options stand for. -/
def termsOf (config : Config) (timeout : Value) : Terms :=
  ⟨config.remote, timeout, config.dryRun, config.maxRetries.toNat⟩

/-- The call and its commands are made from the options. -/
structure Row.Fits (config : Config) (timeout : Value) (row : Row) : Prop where
  call : MadeFrom config row.exchange
  trace : Carries (termsOf config timeout) row.exchange.call row.trace

section Repositories

variable {γ : Type} (p : Program γ) (config : Config) (timeout : Value)

/-- From one session to another, the calls and the trace grow by rows that fit. -/
def Orderly (s t : Session (Repository γ)) : Prop :=
  ∃ rows : List Row, t.exchanges = s.exchanges ++ rows.map Row.exchange ∧
    t.state.actions = s.state.actions ++ rows.flatMap Row.trace ∧
    ∀ row ∈ rows, row.Fits config timeout

/-- From a session whose repository was prepared to another one: the terms stay, and the rows in
between fit. -/
def Steady (s t : Session (Repository γ)) : Prop :=
  terms s.state = termsOf config timeout →
    terms t.state = termsOf config timeout ∧ Orderly config timeout s t

variable {config timeout} {s t u : Session (Repository γ)}

theorem Orderly.of_eq (exchanges : t.exchanges = s.exchanges)
    (actions : t.state.actions = s.state.actions) : Orderly config timeout s t :=
  ⟨[], by simp [exchanges], by simp [actions], by simp⟩

theorem Orderly.trans (first : Orderly config timeout s t) (second : Orderly config timeout t u) :
    Orderly config timeout s u := by
  obtain ⟨xs, exchanges, actions, fit⟩ := first
  obtain ⟨ys, exchanges', actions', fit'⟩ := second
  refine ⟨xs ++ ys, ?_, ?_, fun row member => (List.mem_append.1 member).elim (fit row) (fit' row)⟩
  · rw [exchanges', exchanges, List.map_append, List.append_assoc]
  · rw [actions', actions, List.flatMap_append, List.append_assoc]

theorem Steady.trans (first : Steady config timeout s t) (second : Steady config timeout t u) :
    Steady config timeout s u := by
  intro ready
  obtain ⟨kept, rows⟩ := first ready
  obtain ⟨kept', rows'⟩ := second kept
  exact ⟨kept', rows.trans rows'⟩

/-- What leaves the repository and the calls alone is steady. -/
theorem Steady.of_eq (exchanges : t.exchanges = s.exchanges) (state : t.state = s.state) :
    Steady config timeout s t :=
  fun ready => ⟨state ▸ ready, .of_eq exchanges (congrArg Repository.actions state)⟩

/-! ### Calls -/

/-- The terms after a call are those that it sets. -/
theorem answer_terms (c : Call) (s : Repository γ) :
    terms ((Repository.handle p).answer c s).state = (terms s).set c :=
  perform_terms p c { s with events := [] }

/-- A call that is made from the options, and whose commands are, is a row that fits. -/
theorem asked_orderly {c : Call} {s : Session (Repository γ)}
    (call : MadeFrom config ⟨c, ((Repository.handle p).answer c s.state).result⟩)
    (carries : ∀ trace, Carries (terms s.state) c trace →
      Carries (termsOf config timeout) c trace) :
    Orderly config timeout s (asked (Repository.handle p) c s) := by
  obtain ⟨trace, grown, fits⟩ := perform_carries p c { s.state with events := [] }
  refine ⟨[⟨⟨c, _⟩, trace⟩], rfl, ?_, ?_⟩
  · rw [List.flatMap_singleton]
    exact grown
  · intro row member
    rw [List.mem_singleton.1 member]
    exact ⟨call, carries trace fits⟩

/-- A call that sets nothing and is made from the options is steady. -/
theorem asked_steady {c : Call} (s : Session (Repository γ)) (mode : mode? c = none)
    (retries : retries? c = none)
    (call : MadeFrom config ⟨c, ((Repository.handle p).answer c s.state).result⟩) :
    Steady config timeout s (asked (Repository.handle p) c s) := by
  intro ready
  refine ⟨?_, asked_orderly p call fun trace fits => ready ▸ fits⟩
  rw [asked_state, answer_terms, Terms.set_eq _ mode retries, ready]

/-- To give the repository back is a row that fits, whether it was prepared or not. -/
theorem close_orderly (s : Session (Repository γ)) :
    Orderly config timeout s (close (Repository.handle p) s).2 := by
  rw [close_run]
  split
  · exact .of_eq rfl rfl
  · exact asked_orderly p (s := released s) trivial fun _ fits => fits

/-- To give the repository back is steady. -/
theorem close_steady (s : Session (Repository γ)) :
    Steady config timeout s (close (Repository.handle p) s).2 := by
  intro ready
  refine ⟨?_, close_orderly p s⟩
  rw [close_run]
  split
  · exact ready
  · rw [asked_state, answer_terms]
    exact ready

/-- To publish a ref is steady: its look-ups and its push are calls that set nothing. -/
theorem publish_steady (kind : Ref.Kind) (name : String) (s : Session (Repository γ)) :
    Steady config timeout s (publish (Repository.handle p) config kind name s).2 := by
  have looked : Steady config timeout s (afterLocal (Repository.handle p) config kind name s) := by
    cases kind with
    | branch => exact asked_steady p s rfl rfl trivial
    | tag => exact asked_steady p s rfl rfl rfl
  have queried :
      Steady config timeout s (afterRemote (Repository.handle p) config kind name s) := by
    refine looked.trans ?_
    cases kind with
    | branch => exact asked_steady p _ rfl rfl trivial
    | tag => exact asked_steady p _ rfl rfl trivial
  have pushed : Steady config timeout s (afterPush (Repository.handle p) config kind name s) :=
    queried.trans ((Steady.of_eq rfl rfl).trans
      (asked_steady p (beforePush (Repository.handle p) config kind name s) rfl rfl trivial))
  rcases run : publish (Repository.handle p) config kind name s with ⟨r, t⟩
  have published := run ▸ publish_published (Repository.handle p) config kind name s
  cases published with
  | refused => exact .of_eq rfl rfl
  | closed => exact .of_eq rfl rfl
  | localFailed => exact looked
  | missing => exact looked
  | remoteFailed => exact queried
  | present => exact queried.trans (.of_eq rfl rfl)
  | pushFailed => exact pushed
  | pushed => exact pushed.trans (.of_eq rfl rfl)

/-! ### Preparation -/

/-- The preparation of an opened repository is a row of calls that fit: it does not fail where the
number of retries is handed over. -/
theorem prepared_orderly {s t : Session (Repository γ)} {r : Except Raised Unit}
    (retries : 0 ≤ config.maxRetries)
    (prepared : Prepared (Repository.handle p) config s (r, t)) :
    Orderly config timeout s t := by
  have checkout : Orderly config timeout s (checkedOut (Repository.handle p) config s) :=
    asked_orderly p (s := told (checkoutEvent config) s) rfl fun _ fits => fits
  have announcement : Orderly config timeout s (announced (Repository.handle p) config s) :=
    checkout.trans (.of_eq (announced_exchanges ..) (congrArg Repository.actions
      (announced_state ..)))
  have dryRun : Orderly config timeout s (dryRunSet (Repository.handle p) config s) :=
    announcement.trans (asked_orderly p ⟨rfl, rfl⟩ fun _ fits => fits)
  have all : Orderly config timeout s (retriesSet (Repository.handle p) config s) :=
    dryRun.trans (asked_orderly p
      ⟨rfl, congrArg Publish.Reply.result (answer_setMaxRetries_eq p _ retries)⟩ fun _ fits => fits)
  cases prepared with
  | checkoutFailed => exact checkout
  | dryRunFailed => exact dryRun
  | retriesFailed => exact all
  | ready => exact all

/-- Once prepared, a repository that is bound to the remote of the options has their terms. -/
theorem prepared_terms {s t : Session (Repository γ)} (retries : 0 ≤ config.maxRetries)
    (remote : s.state.remote = config.remote) (limit : s.state.timeout = timeout)
    (prepared : Prepared (Repository.handle p) config s (.ok (), t)) :
    terms t.state = termsOf config timeout := by
  obtain ⟨_, -, -, ⟨_, _, -, failed⟩ | ⟨_, -, -, ready⟩⟩ :=
    prepared_traced p retries remote prepared
  · cases failed
  · have count : t.state.maxRetries = config.maxRetries.toNat := by
      rw [← ready.maxRetries, Int.toNat_natCast]
    rw [terms, ready.remote, ready.timeout, ready.dryRun, count, limit, termsOf]

/-- A repository is opened and prepared by calls that fit. -/
theorem create_orderly (retries : 0 ≤ config.maxRetries) (s : Session (Repository γ)) :
    Orderly config timeout (opened (Repository.handle p) config s)
      (create (Repository.handle p) config s).2 := by
  have created := create_created (Repository.handle p) config s
  generalize create (Repository.handle p) config s = c at created
  cases created with
  | unopened => exact .of_eq rfl rfl
  | ready _ prepared => exact prepared_orderly p retries prepared
  | unprepared _ prepared =>
    exact (prepared_orderly p retries prepared).trans (close_orderly p _)

/-! ### Steps -/

-- On the nesting of steps, as they are performed.
mutual

/-- Nothing outside the tool changes the repository in a step, apart from what git answers. -/
def Sheltered : Step (Repository γ) → Prop
  | .block steps => AllSheltered steps
  | .caught steps => AllSheltered steps
  | .alter f => ∀ s, ∃ g, f s = { s with git := g }
  | _ => True

def AllSheltered : List (Step (Repository γ)) → Prop
  | [] => True
  | step :: steps => Sheltered step ∧ AllSheltered steps

end

mutual

/-- A step is steady. -/
theorem perform_steady (step : Step (Repository γ)) (sheltered : Sheltered step)
    (s : Session (Repository γ)) :
    Steady config timeout s (perform (Repository.handle p) config step s).2 := by
  cases step with
  | publish kind name =>
    rw [perform, map_run_snd]
    exact publish_steady p kind name s
  | close =>
    rw [perform, map_run_snd]
    exact close_steady p s
  | inspect => exact .of_eq rfl rfl
  | block steps =>
    rw [perform, closing_snd, map_run_snd]
    exact (performAll_steady steps sheltered s).trans (close_steady p _)
  | caught steps =>
    rw [perform]
    exact performAll_steady steps sheltered s
  | fail r => exact .of_eq rfl rfl
  | alter f =>
    intro ready
    obtain ⟨g, same⟩ := sheltered s.state
    refine ⟨?_, .of_eq rfl ?_⟩
    · show terms (f s.state) = _
      rw [same]
      exact ready
    · show (f s.state).actions = _
      rw [same]

/-- Steps up to the first that fails are steady. -/
theorem performAll_steady (steps : List (Step (Repository γ))) (sheltered : AllSheltered steps)
    (s : Session (Repository γ)) :
    Steady config timeout s (performAll (Repository.handle p) config steps s).2 := by
  match steps with
  | [] => exact .of_eq rfl rfl
  | step :: steps =>
    have first := perform_steady step sheltered.1 s
    rw [performAll_cons]
    rcases run : perform (Repository.handle p) config step s with ⟨e | y, t⟩ <;> rw [run] at first
    · exact first
    · exact first.trans (performAll_steady steps sheltered.2 t)

end

/-- Steps that are performed one after the other, whatever the earlier ones came to, are steady. -/
theorem each_steady (steps : List (Step (Repository γ))) (sheltered : AllSheltered steps)
    (s : Session (Repository γ)) :
    Steady config timeout s
      (Work.each (steps.map (perform (Repository.handle p) config)) s).2 := by
  induction steps generalizing s with
  | nil => exact .of_eq rfl rfl
  | cons step steps ih =>
    exact (perform_steady p step sheltered.1 s).trans
      (ih sheltered.2 (perform (Repository.handle p) config step s).2)

/-- A run of a publisher with sound options is a row of calls that fit. -/
theorem run_orderly (retries : 0 ≤ config.maxRetries) (steps : List (Step (Repository γ)))
    (sheltered : AllSheltered steps) {s : Session (Repository γ)}
    (limit : s.state.timeout = timeout) :
    Orderly config timeout (opened (Repository.handle p) config s)
      (Publish.Publisher.run (Repository.handle p) config steps s).2 := by
  have creating : Orderly config timeout (opened (Repository.handle p) config s) _ :=
    create_orderly p retries s
  unfold Publish.Publisher.run createThen
  rcases made : create (Repository.handle p) config s with ⟨e | _, t⟩ <;> rw [made] at creating
  · rw [bind_error _ made]
    exact creating
  · rw [bind_ok _ made]
    have ready : terms t.state = termsOf config timeout :=
      prepared_terms p (s := opened (Repository.handle p) config s) retries rfl limit
        (prepared_of_create made)
    exact creating.trans (each_steady p steps sheltered t ready).2

end Repositories

/-! ### Options that were obtained -/

/-- Options that were obtained have no negative number of retries, and a branch and a remote that
are not blank. So in every run of a publisher with them, the calls are made from the options and the
number of retries is handed over without a failure. Each network command is attempted at least once
and at most once more for each retry, for the remote and the branch of the options, unless the
remote is one that is refused. -/
theorem obtained_options_fit {config : Config} (obtained : Obtained config) :
    (0 ≤ config.maxRetries ∧ NotBlank config.defaultBranch ∧ NotBlank config.remote) ∧
    ∀ {γ : Type} (p : Program γ) (git : γ) (timeout : Value) (steps : List (Step (Repository γ))),
      AllSheltered steps →
      ∃ rows : List Row,
        let t := (Publish.Publisher.run (Repository.handle p) config steps
          (.start (.unopened git timeout))).2
        t.exchanges = rows.map Row.exchange ∧
        t.state.actions = .opened config.repoPath :: rows.flatMap Row.trace ∧
        ∀ row ∈ rows, row.Fits config timeout := by
  have sound := obtained.sound
  refine ⟨⟨sound.retries, notBlank_of_isBlankText sound.branch,
    notBlank_of_isBlankText sound.remote⟩, fun p git timeout steps sheltered => ?_⟩
  obtain ⟨rows, exchanges, actions, fit⟩ :=
    run_orderly p sound.retries steps sheltered (s := .start (.unopened git timeout)) rfl
  exact ⟨rows, exchanges, actions, fit⟩

/-- Options with a number of retries that may be written as a text. -/
def writtenOptions : Config := ⟨true, 2, ⟨"/w"⟩, "master", "origin", "v"⟩

/-- A branch is published with options that are read from a mapping with a text in it. -/
theorem obtained_options_fit_written :
    Config.ofValue ⟨"/w"⟩ (.map [(.text "max_retries", .text "+2.0")]) = .ok writtenOptions ∧
    ∃ rows : List Row,
      let t := (Publish.Publisher.run (Repository.handle (keeping ["release-1.0"] []))
        writtenOptions [.publish .branch "release-1.0", .close] (.start (.unopened [] .null))).2
      t.exchanges = rows.map Row.exchange ∧
      t.state.actions = .opened ⟨"/w"⟩ :: rows.flatMap Row.trace ∧
      ∀ row ∈ rows, row.Fits writtenOptions .null := by
  have read : Config.ofValue ⟨"/w"⟩ (.map [(.text "max_retries", .text "+2.0")]) =
      .ok writtenOptions := ok_of_toOption (by decide +kernel)
  exact ⟨read, (obtained_options_fit (.validated read)).2 _ _ _ _ ⟨trivial, trivial, trivial⟩⟩

/-- A remote that is refused is not asked a single time when a branch is looked up on it. -/
theorem refused_remote_has_no_attempt :
    Obtained ⟨true, 3, ⟨"/w"⟩, "master", "ext::x", "v"⟩ ∧
    let t := (Publish.Publisher.run (Repository.handle (keeping ["release-1.0"] []))
      ⟨true, 3, ⟨"/w"⟩, "master", "ext::x", "v"⟩ [.publish .branch "release-1.0"]
      (.start (.unopened [] .null))).2
    t.calls = [.checkout "master", .setDryRun true, .setMaxRetries 3,
      .hasLocalBranch "release-1.0", .hasRemoteBranch "release-1.0"] ∧
    t.state.actions = [.opened ⟨"/w"⟩, .ran ["checkout", "master"] none] := by
  have read : Config.ofValue ⟨"/w"⟩ (.map [(.text "remote", .text "ext::x")]) =
      .ok ⟨true, 3, ⟨"/w"⟩, "master", "ext::x", "v"⟩ := ok_of_toOption (by decide +kernel)
  refine ⟨.validated read, ?_, rfl⟩
  decide +kernel

end ReleaseRefs.Proofs.Cli
