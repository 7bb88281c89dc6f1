import ReleaseRefs.Proofs.Cli.Streams
import ReleaseRefs.Proofs.Git.Refinement

/-!
# `ReleaseRefs.Proofs.Cli.Exit`: what the exit code of a run says

Scripts that release look at the exit code of a run and at nothing else. `run_exit` says what it
tells them, for every command line, all files and variables, and every git.

- `Returned` says that a publication came to a result and that the repository was given back, and
  `Interrupted` that an interrupt came up from one. `Taken` says that standard output takes the line
  about the result.
- `Ending` lists the ends of a run that was asked to publish a ref. Its conditions exclude each
  other (`Ending.success_iff`, `Ending.interrupted_iff`). `Printing` lists what such a run leaves of
  the console.
- `runCommand_ends` goes through the command, and `run_ends` through what comes before it.
  `run_unasked` is about all other runs, `run_printing` about the console after any run.

A result that standard output does not take is told as a failure, though the ref was published:
`unprintable_result_fails` is a run that ends so. The console keeps the line, so that the next run
ends so too, although its own line could be written.
-/

set_option autoImplicit false

namespace ReleaseRefs.Proofs.Cli

open ReleaseRefs.Cli ReleaseRefs.Git ReleaseRefs.Proofs.Git ReleaseRefs.Proofs.Publish
open ReleaseRefs.Publish.Publisher (create publish close closing)

/-- The numbers tell the exits apart. -/
theorem number_inj {x y : ExitCode} : x.number = y.number ↔ x = y := by
  cases x <;> cases y <;> decide

/-! ### Publications -/

section Publications

variable {γ : Type} (p : Program γ) (config : Config) (kind : Ref.Kind) (name : String) (git : γ)

/-- A publisher was created, publishing the ref returned an outcome, and the repository was given
back without a failure. -/
def Returned (out : Publish.Outcome) : Prop :=
  let created := create (Repository.handle p) config (fresh git)
  let published := publish (Repository.handle p) config kind name created.2
  created.1 = .ok () ∧ published.1 = .ok out ∧ (close (Repository.handle p) published.2).1 = .ok ()

/-- The name of the ref is accepted, and an interrupt came up from the publication. -/
def Interrupted : Prop :=
  (∃ v, Ref.check kind config.tagPrefix name = .ok v) ∧
    ∃ e m, (publishing p config kind name git).1 = .error e ∧ e.failure = .interrupted m

/-- Standard output takes the line about an outcome, behind what the console has still to write. -/
def Taken (console : Console) (config : Config) (out : Publish.Outcome) : Prop :=
  Text.Utf8.unencodable? (console.unwritten ++ printed (out.line config.remote)) = none

/-- The line is taken exactly if nothing is still to be written and the line has no halves. -/
theorem taken_iff {console : Console} {config : Config} {out : Publish.Outcome} :
    Taken console config out ↔ console.complaint? = none ∧
      Text.Utf8.unencodable? (printed (out.line config.remote)) = none := by
  rw [Taken, ← Console.print_isOk_iff]
  simp [Console.print_eq_ok_iff]

variable {p config kind name git}

/-- What is closed succeeds if it does so itself and the repository is given back. -/
theorem closing_eq_ok_iff {σ α : Type} {h : Publish.Handle σ} {w : Publish.Work σ α}
    {s : Publish.Session σ} {a : α} :
    (closing h w s).1 = .ok a ↔ (w s).1 = .ok a ∧ (close h (w s).2).1 = .ok () := by
  unfold closing
  rcases hc : close h (w s).2 with ⟨e | _, t⟩ <;> simp only [hc]
  · exact ⟨nofun, fun both => nomatch both.2⟩
  · exact ⟨fun ok => ⟨ok, trivial⟩, And.left⟩

/-- A publication comes to an outcome exactly if all its parts succeed. -/
theorem publishing_eq_ok_iff {out : Publish.Outcome} :
    (publishing p config kind name git).1 = .ok out ↔ Returned p config kind name git out := by
  rw [publishing_run]
  unfold Returned
  rcases hc : create (Repository.handle p) config (fresh git) with ⟨e | _, t⟩ <;> simp only
  · exact ⟨nofun, fun all => nomatch all.1⟩
  · exact closing_eq_ok_iff.trans ⟨fun both => ⟨trivial, both⟩, And.right⟩

/-- A publication comes to one outcome. -/
theorem Returned.unique {out out' : Publish.Outcome}
    (returned : Returned p config kind name git out)
    (returned' : Returned p config kind name git out') : out = out' := by
  have same := (publishing_eq_ok_iff.2 returned).symm.trans (publishing_eq_ok_iff.2 returned')
  exact Except.ok.inj same

/-- A publication that comes to an outcome was not interrupted. -/
theorem Returned.not_interrupted {out : Publish.Outcome}
    (returned : Returned p config kind name git out) :
    ¬ Interrupted p config kind name git := by
  rintro ⟨-, e, m, failed, -⟩
  cases failed.symm.trans (publishing_eq_ok_iff.2 returned)

/-- A ref whose name is refused is not published. -/
theorem not_returned_of_refused {e : Raised} {out : Publish.Outcome}
    (bad : Ref.check kind config.tagPrefix name = .error e) :
    ¬ Returned p config kind name git out := by
  rintro ⟨-, published, -⟩
  rw [publish_refused bad] at published
  cases published

end Publications

/-! ### Ending of a command -/

section Endings

variable {γ : Type} (p : Program γ) (t : Tools γ) (asked : Option (Config × Ref.Kind × String))

/-- How a run ends that was asked to publish a ref. There may be no options for it. -/
inductive Ending : ExitCode → Prop where
  | published {config : Config} {kind : Ref.Kind} {name : String} {out : Publish.Outcome}
      (asks : asked = some (config, kind, name)) (returned : Returned p config kind name t.git out)
      (taken : Taken t.console config out) : Ending .success
  | interrupted {config : Config} {kind : Ref.Kind} {name : String}
      (asks : asked = some (config, kind, name))
      (interrupted : Interrupted p config kind name t.git) : Ending .interrupted
  | failed
      (untaken : ∀ config kind name out, asked = some (config, kind, name) →
        Returned p config kind name t.git out → ¬ Taken t.console config out)
      (uninterrupted : ∀ config kind name, asked = some (config, kind, name) →
        ¬ Interrupted p config kind name t.git) : Ending .failure

/-- What a run leaves of the console. It prints the line about the outcome, if it comes to one, and
nothing else. -/
inductive Printing : Console → Prop where
  | line {config : Config} {kind : Ref.Kind} {name : String} {out : Publish.Outcome}
      (asks : asked = some (config, kind, name))
      (returned : Returned p config kind name t.git out) :
      Printing (t.console.print (out.line config.remote)).2
  | nothing
      (unreturned : ∀ config kind name out, asked = some (config, kind, name) →
        ¬ Returned p config kind name t.git out) : Printing t.console

variable {p t asked} {exit : ExitCode}

theorem Ending.success_iff (ending : Ending p t asked exit) :
    exit = .success ↔ ∃ config kind name out, asked = some (config, kind, name) ∧
      Returned p config kind name t.git out ∧ Taken t.console config out := by
  cases ending with
  | published asks returned taken =>
    exact ⟨fun _ => ⟨_, _, _, _, asks, returned, taken⟩, fun _ => rfl⟩
  | interrupted asks interrupted =>
    refine ⟨nofun, ?_⟩
    rintro ⟨_, _, _, _, asks', returned, -⟩
    cases asks.symm.trans asks'
    exact absurd interrupted returned.not_interrupted
  | failed untaken =>
    refine ⟨nofun, ?_⟩
    rintro ⟨_, _, _, _, asks, returned, taken⟩
    exact absurd taken (untaken _ _ _ _ asks returned)

theorem Ending.interrupted_iff (ending : Ending p t asked exit) :
    exit = .interrupted ↔ ∃ config kind name, asked = some (config, kind, name) ∧
      Interrupted p config kind name t.git := by
  cases ending with
  | published asks returned =>
    refine ⟨nofun, ?_⟩
    rintro ⟨_, _, _, asks', interrupted⟩
    cases asks.symm.trans asks'
    exact absurd interrupted returned.not_interrupted
  | interrupted asks interrupted => exact ⟨fun _ => ⟨_, _, _, asks, interrupted⟩, fun _ => rfl⟩
  | failed _ uninterrupted =>
    refine ⟨nofun, ?_⟩
    rintro ⟨_, _, _, asks, interrupted⟩
    exact absurd interrupted (uninterrupted _ _ _ asks)

theorem Ending.ne_usage (ending : Ending p t asked exit) : exit ≠ .usage := by
  cases ending <;> exact nofun

/-- Without options for a ref the run fails. -/
theorem Ending.of_none : Ending p t none .failure := .failed nofun nofun

/-- Without options for a ref the run prints nothing. -/
theorem Printing.of_none : Printing p t none t.console := .nothing nofun

/-- A failure that is told ends the run as an interrupt if it is one, and else as a failure. -/
theorem reported_exit (j : Log.Journal) (r : Raised) :
    ((reported j r).1 = .interrupted ∧ ∃ m, r.failure = .interrupted m) ∨
      ((reported j r).1 = .failure ∧ ∀ m, r.failure ≠ .interrupted m) := by
  rcases r with ⟨f, cause⟩
  cases f <;> simp [reported, Report.ofFailure]

/-- A failure that is told and is no interrupt. -/
theorem reported_failure (j : Log.Journal) {r : Raised} (other : ∀ m, r.failure ≠ .interrupted m) :
    (reported j r).1 = .failure := by
  rcases reported_exit j r with ⟨-, m, same⟩ | ⟨exit, -⟩
  · exact absurd same (other m)
  · exact exit

/-- Options that are refused are no interrupt. -/
theorem configFor_error {settings : Settings} {overrides : List (String × Value)} {e : Raised}
    (refused : settings.configFor overrides = .error e) (m : String) :
    e.failure ≠ .interrupted m := by
  unfold Settings.configFor at refused
  split at refused
  · cases refused
    exact nofun
  · split at refused
    · cases refused
    · next errors _ =>
      obtain rfl := Except.error.inj refused
      cases errors <;> exact nofun

/-- The line about an outcome is told as a success exactly if it is taken, and else as a failure. -/
theorem concluded_exit (j : Log.Journal) (console : Console) (config : Config)
    (out : Publish.Outcome) :
    let exit := (concluded j console config.remote (.ok out)).1.1
    (exit = .success ∧ Taken console config out) ∨
      (exit = .failure ∧ ¬ Taken console config out) := by
  have taken : Taken console config out ↔ _ := Console.print_isOk_iff.symm
  cases written : (console.print (out.line config.remote)).1 with
  | ok text => exact .inl ⟨by simp only [concluded, written, succeeded], taken.2 ⟨text, written⟩⟩
  | error u =>
    -- The outcome stands, but the run fails to tell it.
    refine .inr ⟨?_, fun told => ?_⟩
    · simp only [concluded, written, succeeded]
      refine reported_failure _ fun m same => ?_
      cases same
    · obtain ⟨text, written'⟩ := taken.1 told
      cases written.symm.trans written'

/-- How a command ends that publishes a ref, and tells of it. -/
theorem publishAndTell_ends (j : Log.Journal) {config : Config} {kind : Ref.Kind} {name : String}
    {v : Version} (good : Ref.check kind config.tagPrefix name = .ok v) :
    Ending p t (some (config, kind, name)) (publishAndTell p j config kind name t).1.exit := by
  cases published : (publishing p config kind name t.git).1 with
  | error e =>
    have exit : (publishAndTell p j config kind name t).1.exit = (reported j.unbind e).1 := by
      simp only [publishAndTell, published, concluded]
    rw [exit]
    rcases reported_exit j.unbind e with ⟨same, m, interrupt⟩ | ⟨same, other⟩ <;> rw [same]
    · exact .interrupted rfl ⟨⟨v, good⟩, e, m, published, interrupt⟩
    · refine .failed ?_ ?_
      · rintro _ _ _ out ⟨⟩ returned
        cases published.symm.trans (publishing_eq_ok_iff.2 returned)
      · rintro _ _ _ ⟨⟩ ⟨-, e', m, failed, interrupt⟩
        cases published.symm.trans failed
        exact other m interrupt
  | ok out =>
    have returned := publishing_eq_ok_iff.1 published
    have exit : (publishAndTell p j config kind name t).1.exit
        = (concluded j.unbind t.console config.remote (.ok out)).1.1 := by
      simp only [publishAndTell, published]
    rw [exit]
    rcases concluded_exit j.unbind t.console config out with ⟨same, taken⟩ | ⟨same, untaken⟩ <;>
      rw [same]
    · exact .published rfl returned taken
    · refine .failed ?_ ?_
      · rintro _ _ _ out' ⟨⟩ returned'
        cases published.symm.trans (publishing_eq_ok_iff.2 returned')
        exact untaken
      · rintro _ _ _ ⟨⟩
        exact returned.not_interrupted

/-- What a command leaves of the console that publishes a ref. -/
theorem publishAndTell_printing (j : Log.Journal) {config : Config} {kind : Ref.Kind}
    {name : String} :
    Printing p t (some (config, kind, name)) (publishAndTell p j config kind name t).2.console := by
  cases published : (publishing p config kind name t.git).1 with
  | error e =>
    simp only [publishAndTell, published, concluded]
    refine .nothing ?_
    rintro _ _ _ out ⟨⟩ returned
    cases published.symm.trans (publishing_eq_ok_iff.2 returned)
  | ok out =>
    simp only [publishAndTell, published, concluded]
    exact .line rfl (publishing_eq_ok_iff.1 published)

/-- How a command ends that is asked to publish a ref, and what it leaves of the console. -/
theorem runCommand_ends (j : Log.Journal) (settings : Settings) (kind : Ref.Kind)
    (r : PublishRequest) :
    let asked :=
      (settings.configFor r.overrides).toOption.map fun config => (config, kind, r.name)
    Ending p t asked (runCommand p j settings kind r t).1.exit ∧
      Printing p t asked (runCommand p j settings kind r t).2.console := by
  unfold runCommand
  cases configured : settings.configFor r.overrides with
  | error e =>
    show Ending p t none (reported j e).1 ∧ Printing p t none t.console
    rw [reported_failure j (configFor_error configured)]
    exact ⟨.of_none, .of_none⟩
  | ok config =>
    show Ending p t (some (config, kind, r.name)) _ ∧ Printing p t (some (config, kind, r.name)) _
    cases checked : Ref.check kind config.tagPrefix r.name with
    | ok v =>
      simp only [checked]
      exact ⟨publishAndTell_ends j checked, publishAndTell_printing j⟩
    | error e =>
      simp only [checked]
      show Ending p t _ (reported j e).1 ∧ Printing p t _ t.console
      obtain ⟨_, _, about⟩ := Ref.check_error checked
      rw [reported_failure j (by rw [about]; exact nofun)]
      have unreturned : ∀ config' kind' name out,
          some (config, kind, r.name) = some (config', kind', name) →
          ¬ Returned p config' kind' name t.git out := by
        rintro _ _ _ out ⟨⟩
        exact not_returned_of_refused checked
      refine ⟨.failed (fun _ _ _ out same returned => ?_) ?_, .nothing unreturned⟩
      · exact absurd returned (unreturned _ _ _ out same)
      · rintro _ _ _ ⟨⟩ ⟨⟨v, good⟩, -⟩
        cases checked.symm.trans good

end Endings

/-! ### Runs of the command line -/

section Runs

variable {γ : Type} (p : Program γ) (program : String) {words : List String} {m : Machine γ}

/-- The words of a run are refused: there are none, or those for the tool or for its command ask for
nothing. -/
inductive WordsRefused (words : List String) (m : Machine γ) : Prop where
  | none (empty : words = [])
  | tool {e : UsageError} (refused : Request.ofWords words = .error e)
  | command {preface : Preface} {kind : Ref.Kind} {rest : List String} {e : UsageError}
      (request : Request.ofWords words = .ok (.command preface kind rest))
      (refused : CommandRequest.ofWords m.surroundings.files kind rest = .error e)

/-- The words of a run are accepted and ask to publish a ref. -/
def AsksFor (words : List String) (m : Machine γ) (kind : Ref.Kind) (name : String) : Prop :=
  ∃ preface rest r, Request.ofWords words = .ok (.command preface kind rest) ∧
    CommandRequest.ofWords m.surroundings.files kind rest = .ok (.publish r) ∧ r.name = name

/-- A run without a request ends with the exit for usage errors, or with a failure. -/
theorem withoutRequest_exit (c : Command) (e : UsageError) :
    (withoutRequest program c e).exit = .usage ∨ (withoutRequest program c e).exit = .failure := by
  unfold withoutRequest
  simp only
  split
  · exact .inr rfl
  · exact .inl rfl

/-- A run did nothing with git or the console and was not interrupted, and its words were refused if
it says so. -/
structure Unacted (words : List String) (m : Machine γ) (r : Outcome × Machine γ) : Prop where
  actions : r.1.actions = []
  tools : r.2.toTools = m.toTools
  uninterrupted : r.1.exit ≠ .interrupted
  refused : r.1.exit = .usage → WordsRefused words m

/-- Other exits say nothing about the words. -/
theorem Unacted.of_exit {r : Outcome × Machine γ} (actions : r.1.actions = [])
    (tools : r.2.toTools = m.toTools) (exit : r.1.exit = .success ∨ r.1.exit = .failure) :
    Unacted words m r := by
  refine ⟨actions, tools, ?_, ?_⟩ <;> rcases exit with h | h <;> simp [h]

/-- Words that are refused are told as such, or end the run with a failure. -/
theorem WordsRefused.unacted (refused : WordsRefused words m) (c : Command) (e : UsageError)
    {m' : Machine γ} (tools : m'.toTools = m.toTools) :
    Unacted words m (withoutRequest program c e, m') where
  actions := withoutRequest_actions program c e
  tools := tools
  uninterrupted := by rcases withoutRequest_exit program c e with h | h <;> simp [h]
  refused _ := refused

section Asking

variable {preface : Preface} {kind : Ref.Kind} {rest : List String}

/-- Without settings there are no options for a ref. -/
theorem Asks.effective_of_refused (asks : Asks words preface kind rest) {e : Raised}
    (refused : settingsIn preface m = .error e) : effective? words m = none := by
  rw [asks.effective, effectiveFor?]
  simp [refused, Except.toOption]

/-- The options for a ref are the settings, with what was said for the run over them. -/
theorem Asks.effective_of_settings (asks : Asks words preface kind rest)
    {settings : Settings} (loaded : settingsIn preface m = .ok settings) {r : PublishRequest}
    (asked : CommandRequest.ofWords m.surroundings.files kind rest = .ok (.publish r)) :
    effective? words m =
      (settings.configFor r.overrides).toOption.map fun config => (config, kind, r.name) := by
  rw [asks.effective, effectiveFor?]
  simp only [loaded, asked]
  show (settings.configFor r.overrides).toOption.bind _ = _
  cases settings.configFor r.overrides <;> rfl

/-- A command that is not asked to publish a ref does nothing with git or the console. -/
theorem Asks.unacted (asks : Asks words preface kind rest)
    (unasked : ∀ kind name, ¬ AsksFor words m kind name) :
    Unacted words m (runKind p program preface kind rest m) := by
  cases loaded : settingsIn preface m with
  | error e =>
    obtain ⟨exit, actions⟩ := withoutSettings_exit (tell m.journal (loadedIn preface m).1).1 e
    rw [runKind_refused p program kind rest loaded]
    exact .of_exit actions rfl (.inr exit)
  | ok settings =>
    rw [runKind_settings p program loaded]
    cases asked : CommandRequest.ofWords m.surroundings.files kind rest with
    | error e =>
      have unacted : Unacted words m (withoutRequest program (.publish kind) e, m) :=
        (WordsRefused.command asks asked).unacted program (.publish kind) e rfl
      simp only [runWords, asked]
      exact ⟨unacted.actions, rfl, unacted.uninterrupted, unacted.refused⟩
    | ok answer =>
      cases answer with
      | page page =>
        simp only [runWords, asked]
        exact .of_exit rfl rfl (.inl rfl)
      | publish r => exact absurd ⟨preface, rest, r, asks, asked, rfl⟩ (unasked kind r.name)

end Asking

/-- A run that is asked to publish a ref ends in one of the ways listed, and so does the console. -/
theorem run_ends {kind : Ref.Kind} {name : String} (asks : AsksFor words m kind name) :
    Ending p m.toTools (effective? words m) (run p program words m).1.exit ∧
      Printing p m.toTools (effective? words m) (run p program words m).2.console := by
  obtain ⟨preface, rest, r, request, asked, rfl⟩ := asks
  have asks : Asks words preface kind rest := request
  rw [run_command p program m asks]
  cases loaded : settingsIn preface m with
  | error e =>
    rw [asks.effective_of_refused loaded, runKind_refused p program kind rest loaded,
      (withoutSettings_exit _ e).1]
    exact ⟨.of_none, .of_none⟩
  | ok settings =>
    rw [asks.effective_of_settings loaded asked, runKind_settings p program loaded]
    simp only [runWords, asked]
    exact runCommand_ends _ settings kind r

/-- A run that is not asked to publish a ref does nothing with git or the console. -/
theorem run_unasked (unasked : ∀ kind name, ¬ AsksFor words m kind name) :
    Unacted words m (run p program words m) := by
  unfold run
  split
  · next empty => exact ⟨rfl, rfl, by simp [idle], fun _ => .none (List.isEmpty_iff.1 empty)⟩
  · cases request : Request.ofWords words with
    | error e => exact (WordsRefused.tool request).unacted program .tool e rfl
    | ok answer =>
      cases answer with
      | page page => exact .of_exit rfl rfl (.inl rfl)
      | command preface kind rest => exact Asks.unacted p program request unasked

/-- Options are for the ref that the run is asked to publish. -/
theorem AsksFor.effective {kind : Ref.Kind} {name : String} (asks : AsksFor words m kind name)
    {config : Config} {kind' : Ref.Kind} {name' : String}
    (effective : effective? words m = some (config, kind', name')) :
    kind' = kind ∧ name' = name := by
  obtain ⟨preface, rest, r, request, asked, rfl⟩ := asks
  have asks : Asks words preface kind rest := request
  cases loaded : settingsIn preface m with
  | error e =>
    rw [asks.effective_of_refused loaded] at effective
    cases effective
  | ok settings =>
    rw [asks.effective_of_settings loaded asked] at effective
    cases configured : settings.configFor r.overrides <;> rw [configured] at effective <;>
      cases effective
    exact ⟨rfl, rfl⟩

/-- Only a run that asks to publish a ref has options for one. -/
theorem AsksFor.of_effective {config : Config} {kind : Ref.Kind} {name : String}
    (effective : effective? words m = some (config, kind, name)) : AsksFor words m kind name := by
  obtain ⟨preface, rest, _, r, request, asked, named, -, -⟩ := effective?_eq_some effective
  exact ⟨preface, rest, r, request, asked, named⟩

/-- A run prints the line about the outcome of its publication, if it comes to one, and nothing
else. -/
theorem run_printing (words : List String) (m : Machine γ) :
    Printing p m.toTools (effective? words m) (run p program words m).2.console := by
  by_cases asked : ∃ kind name, AsksFor words m kind name
  · obtain ⟨_, _, asks⟩ := asked
    exact (run_ends p program asks).2
  · have unacted : Unacted words m (run p program words m) :=
      run_unasked p program fun kind name asks => asked ⟨kind, name, asks⟩
    rw [unacted.tools]
    exact .nothing fun _ kind name _ effective _ => asked ⟨kind, name, .of_effective effective⟩

/-- What is told of files with settings is log. -/
theorem early_logged {o : Output} (mem : o ∈ early words m) : ∃ l, o = .log l := by
  unfold early at mem
  split at mem
  · cases mem
  · obtain ⟨e, -, written⟩ := mem_tell mem
    obtain ⟨l, rfl, -⟩ := mem_logged written
    exact ⟨l, rfl⟩

/-- A text on standard output is what was asked for, and only a success writes one. -/
theorem run_text {s : String} (mem : .text .out s ∈ (run p program words m).1.outputs) :
    (run p program words m).1.exit = .success ∧ Announced p program words m s := by
  obtain ⟨late, outputs, shape⟩ := run_late p program words m
  rw [outputs, List.mem_append] at mem
  rcases mem with first | later
  · obtain ⟨l, log⟩ := early_logged first
    cases log
  -- What comes later is on standard output only as the last text of a success.
  · generalize (run p program words m).1.exit = exit at shape
    cases shape with
    | refused _ aside => cases (aside _ later).stream
    | announced aside told =>
      rcases List.mem_append.1 later with beside | last
      · cases (aside _ beside).stream
      · cases List.mem_singleton.1 last
        exact ⟨rfl, told⟩

/-- A success writes a text to standard output. -/
theorem run_success (success : (run p program words m).1.exit = .success) :
    ∃ s, .text .out s ∈ (run p program words m).1.outputs := by
  obtain ⟨late, outputs, shape⟩ := run_late p program words m
  rw [outputs]
  rw [success] at shape
  generalize hx : ExitCode.success = exit at shape
  cases shape with
  | refused failed => exact absurd hx.symm failed
  | @announced _ s _ _ => exact ⟨s, by simp⟩

variable {p program} in
/-- What a run announces that is asked to publish a ref is the line about the outcome. -/
theorem AsksFor.announced {kind : Ref.Kind} {name s : String} (asks : AsksFor words m kind name)
    (told : Announced p program words m s) :
    ∃ config out, effective? words m = some (config, kind, name) ∧
      Returned p config kind name m.git out ∧ s = printed (out.line config.remote) := by
  cases told with
  | page request =>
    obtain ⟨_, _, _, request', -⟩ := asks
    cases request.symm.trans request'
  | commandPage request asked =>
    obtain ⟨_, _, _, request', asked', -⟩ := asks
    cases request.symm.trans request'
    cases asked.symm.trans asked'
  | result effective result =>
    obtain ⟨rfl, rfl⟩ := asks.effective effective
    obtain ⟨out, published, rfl⟩ := result
    exact ⟨_, out, effective, publishing_eq_ok_iff.1 published, rfl⟩

section Asked

variable {kind : Ref.Kind} {name : String} (asks : AsksFor words m kind name)
include asks

/-- A run that is asked to publish a ref succeeds exactly if it has an outcome that is told. -/
theorem AsksFor.success_iff :
    (run p program words m).1.exit = .success ↔
      ∃ config out, effective? words m = some (config, kind, name) ∧
        Returned p config kind name m.git out ∧ Taken m.console config out := by
  rw [(run_ends p program asks).1.success_iff]
  constructor
  · rintro ⟨config, _, _, out, effective, rest⟩
    obtain ⟨rfl, rfl⟩ := asks.effective effective
    exact ⟨config, out, effective, rest⟩
  · rintro ⟨config, out, rest⟩
    exact ⟨config, kind, name, out, rest⟩

/-- A run that is asked to publish a ref ends as interrupted exactly if an interrupt came up from
the publication. -/
theorem AsksFor.interrupted_iff :
    (run p program words m).1.exit = .interrupted ↔
      ∃ config, effective? words m = some (config, kind, name) ∧
        Interrupted p config kind name m.git := by
  rw [(run_ends p program asks).1.interrupted_iff]
  constructor
  · rintro ⟨config, _, _, effective, rest⟩
    obtain ⟨rfl, rfl⟩ := asks.effective effective
    exact ⟨config, effective, rest⟩
  · rintro ⟨config, rest⟩
    exact ⟨config, kind, name, rest⟩

/-- What a run that is asked to publish a ref writes to standard output is the line about its
outcome. -/
theorem AsksFor.text_iff {s : String} :
    .text .out s ∈ (run p program words m).1.outputs ↔
      ∃ config out, effective? words m = some (config, kind, name) ∧
        Returned p config kind name m.git out ∧ Taken m.console config out ∧
        s = printed (out.line config.remote) := by
  -- There is one outcome, so the line that is taken and the line that is written are the same.
  have one : ∀ {config config' : Config} {out out' : Publish.Outcome},
      effective? words m = some (config, kind, name) →
      effective? words m = some (config', kind, name) →
      Returned p config kind name m.git out → Returned p config' kind name m.git out' →
      config = config' ∧ out = out' := by
    intro _ _ _ _ effective effective' returned returned'
    cases effective.symm.trans effective'
    obtain rfl := returned.unique returned'
    exact ⟨rfl, rfl⟩
  constructor
  · intro mem
    obtain ⟨exit, told⟩ := run_text p program mem
    obtain ⟨config, out, effective, returned, rfl⟩ := asks.announced told
    obtain ⟨config', out', effective', returned', taken⟩ := (asks.success_iff p program).1 exit
    obtain ⟨rfl, rfl⟩ := one effective effective' returned returned'
    exact ⟨config, out, effective, returned, taken, rfl⟩
  · rintro ⟨config, out, effective, returned, taken, rfl⟩
    have exit := (asks.success_iff p program).2 ⟨config, out, effective, returned, taken⟩
    obtain ⟨s, mem⟩ := run_success p program exit
    obtain ⟨_, _, effective', returned', rfl⟩ := asks.announced (run_text p program mem).2
    obtain ⟨rfl, rfl⟩ := one effective effective' returned returned'
    exact mem

end Asked

/-- What the exit code of a run says, for every command line, all files and variables, and every
git, whatever it answers and however it fails.

- It is 0, 1, 2 or 130, and 0 exactly if something was asked for and written to standard output.
- If it is 2, then the words were refused and nothing was done with git.
- If it is 130, then the words were accepted and ask to publish a ref.

If the words were accepted and ask to publish a ref:

- it is 0 exactly if publishing the ref returned an outcome, the repository was given back without a
  failure and standard output took the line about the outcome, behind what earlier runs had left
  on the console. Only then is that line written, and no other text goes to standard output;
- it is 130 exactly if an interrupt came up from the publication;
- otherwise it is 1. -/
theorem run_exit (words : List String) (m : Machine γ) :
    let o := (run p program words m).1
    (o.exit.number ∈ [0, 1, 2, 130] ∧ (o.exit.number = 0 ↔ ∃ s, .text .out s ∈ o.outputs)) ∧
    (o.exit.number = 2 →
      WordsRefused words m ∧ o.actions = [] ∧ (run p program words m).2.git = m.git) ∧
    (o.exit.number = 130 → ∃ kind name, AsksFor words m kind name) ∧
    ∀ kind name, AsksFor words m kind name →
      (o.exit.number = 0 ↔ ∃ config out, effective? words m = some (config, kind, name) ∧
        Returned p config kind name m.git out ∧ Taken m.console config out) ∧
      (∀ s, .text .out s ∈ o.outputs ↔
        ∃ config out, effective? words m = some (config, kind, name) ∧
          Returned p config kind name m.git out ∧ Taken m.console config out ∧
          s = printed (out.line config.remote)) ∧
      (o.exit.number = 130 ↔ ∃ config, effective? words m = some (config, kind, name) ∧
        Interrupted p config kind name m.git) ∧
      o.exit.number ≠ 2 := by
  intro o
  have success : o.exit.number = 0 ↔ o.exit = .success := number_inj (y := .success)
  have usage : o.exit.number = 2 ↔ o.exit = .usage := number_inj (y := .usage)
  have interrupted : o.exit.number = 130 ↔ o.exit = .interrupted := number_inj (y := .interrupted)
  rw [success, usage, interrupted]
  refine ⟨⟨by cases o.exit <;> decide, ?_⟩, ?_, ?_, ?_⟩
  · exact ⟨run_success p program, fun ⟨s, mem⟩ => (run_text p program mem).1⟩
  · intro two
    have unacted : Unacted words m (run p program words m) :=
      run_unasked p program fun _ _ asks => (run_ends p program asks).1.ne_usage two
    exact ⟨unacted.refused two, unacted.actions, congrArg Tools.git unacted.tools⟩
  · intro stopped
    by_contra unasked
    have unacted : Unacted words m (run p program words m) :=
      run_unasked p program fun kind name asks => unasked ⟨kind, name, asks⟩
    exact unacted.uninterrupted stopped
  · intro kind name asks
    exact ⟨asks.success_iff p program, fun _ => asks.text_iff p program,
      asks.interrupted_iff p program, usage.not.2 (run_ends p program asks).1.ne_usage⟩

/-- A process without files, before a git whose remote has no refs. -/
def bareRemote : Machine (List String) where
  surroundings := ⟨⟨⟨"/work"⟩, []⟩, [("HOME", "/home")]⟩
  git := []
  console := .blank
  journal := .fresh
  chosen := none

/-- The options of a rehearsal before a remote. -/
def rehearsal (remote : String) : Config := ⟨true, 3, ⟨"/work"⟩, "master", remote, "v"⟩

/-- What a rehearsal of a branch comes to. -/
def rehearsed (branch : String) : Publish.Outcome := ⟨branch, .branch, true, true⟩

/-- A git whose commands are all interrupted. -/
def interrupting : Program (List String) :=
  { keeping [] [] with run := fun _ g => (.error (.interrupted ""), g) }

/-- A rehearsal that succeeds and tells so, one that is interrupted, and a run without words. -/
theorem run_exit_three_runs :
    let told := (run (keeping ["release-1.0"] []) "cli" ["branch", "release-1.0"] bareRemote).1
    let stopped := (run interrupting "cli" ["branch", "release-1.0"] bareRemote).1
    let refused := (run absent "cli" [] bareProcess).1
    AsksFor ["branch", "release-1.0"] bareRemote .branch "release-1.0" ∧
    (told.exit.number = 0 ∧
      .text .out (printed "[dry-run] Pushed branch release-1.0 to origin") ∈ told.outputs) ∧
    stopped.exit.number = 130 ∧
    (refused.exit.number = 2 ∧ WordsRefused [] bareProcess ∧ refused.actions = []) := by
  intro told stopped refused
  have asks : AsksFor ["branch", "release-1.0"] bareRemote .branch "release-1.0" :=
    ⟨⟨none, 0, false⟩, ["release-1.0"], ⟨"release-1.0", none, none, none, none⟩,
      ok_of_toOption (by decide +kernel), ok_of_toOption (by decide +kernel), rfl⟩
  have effective : effective? ["branch", "release-1.0"] bareRemote
      = some (rehearsal "origin", .branch, "release-1.0") := by decide +kernel
  refine ⟨asks, ?_, ?_, ?_⟩
  · have returned : Returned (keeping ["release-1.0"] []) (rehearsal "origin") .branch
        "release-1.0" bareRemote.git (rehearsed "release-1.0") :=
      publishing_eq_ok_iff.1 (ok_of_toOption (by decide +kernel))
    have taken : Taken bareRemote.console (rehearsal "origin") (rehearsed "release-1.0") := by
      unfold Taken
      decide +kernel
    obtain ⟨success, text, -⟩ :=
      (run_exit (keeping ["release-1.0"] []) "cli" _ bareRemote).2.2.2 _ _ asks
    exact ⟨success.2 ⟨_, _, effective, returned, taken⟩,
      (text _).2 ⟨_, _, effective, returned, taken, rfl⟩⟩
  · have interrupted : Interrupted interrupting (rehearsal "origin") .branch "release-1.0"
        bareRemote.git :=
      ⟨⟨⟨1, 0, 0, none, none⟩, ok_of_toOption (by decide +kernel)⟩, _, _, rfl, rfl⟩
    obtain ⟨-, -, interrupt, -⟩ := (run_exit interrupting "cli" _ bareRemote).2.2.2 _ _ asks
    exact interrupt.2 ⟨_, effective, interrupted⟩
  · have usage : refused.exit.number = 2 := by decide +kernel
    obtain ⟨words, actions, -⟩ := (run_exit absent "cli" [] bareProcess).2.1 usage
    exact ⟨usage, words, actions⟩

/-- A remote whose name is the half of a character. -/
def halfRemote : String := String.ofList (Text.ofCodePoints [0xDCFF])

/-- A rehearsal before such a remote comes to an outcome, and the repository is given back. The run
fails all the same, because standard output does not take the line about the outcome. The line stays
on the console. -/
theorem unprintable_result_fails :
    AsksFor ["branch", "release-1.0", "--remote", halfRemote] bareRemote .branch "release-1.0" ∧
    effective? ["branch", "release-1.0", "--remote", halfRemote] bareRemote
      = some (rehearsal halfRemote, .branch, "release-1.0") ∧
    Returned (keeping ["release-1.0"] []) (rehearsal halfRemote) .branch "release-1.0"
      bareRemote.git (rehearsed "release-1.0") ∧
    let ran := run (keeping ["release-1.0"] []) "cli"
      ["branch", "release-1.0", "--remote", halfRemote] bareRemote
    ran.1.exit.number = 1 ∧ ran.2.console.complaint? = some ⟨0xDCFF, 39, 1⟩ := by
  have asks : AsksFor ["branch", "release-1.0", "--remote", halfRemote] bareRemote .branch
      "release-1.0" :=
    ⟨⟨none, 0, false⟩, ["release-1.0", "--remote", halfRemote],
      ⟨"release-1.0", none, none, none, some halfRemote⟩,
      ok_of_toOption (by decide +kernel), ok_of_toOption (by decide +kernel), rfl⟩
  exact ⟨asks, by decide +kernel, publishing_eq_ok_iff.1 (ok_of_toOption (by decide +kernel)),
    by decide +kernel, by decide +kernel⟩

end Runs

end ReleaseRefs.Proofs.Cli
