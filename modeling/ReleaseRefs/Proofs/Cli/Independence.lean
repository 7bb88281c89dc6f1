import ReleaseRefs.Proofs.Cli.Exit
import ReleaseRefs.Proofs.Config.LogSettings
import ReleaseRefs.Proofs.Git.Answers

/-!
# `ReleaseRefs.Proofs.Cli.Independence`: a run does not depend on its log or on earlier runs

The runs in one process share a journal, the fields that are bound to it, the file that settings are
being read from, and the console for lines about results. Of all this only the console may change
what a later run comes to. What is said about the log, on the command line, in variables and in
files, changes nothing either.

- `Upshot` is what a run comes to, its log aside. `Echoes` compares two runs by it, over gits that
  give the same answers.
- `run_complaint_eq_none_iff`: a run leaves a complaint to the console exactly if there was one
  before, or if the line about its outcome cannot be written. `runs_complaint`: a complaint stays,
  and no later run of the process ends with success in publishing a ref.
- `Reached` says that a process can get into a state by some runs, with other files, variables and
  another git in between. `Reached.clean`: nothing stays bound or chosen.
- `Alike` says that two runs ask for the same, apart from what they say about the log.
- `runs_independent`: runs that are alike echo each other, whatever runs came before, if they find
  the console with the same complaint or with none. `kept_line_decides`: if only one of them finds a
  complaint, then it fails and the other one succeeds.
- This also takes standard output to take the lines about files with settings, which a fresh process
  writes there. `early_line_decides`: if it does not, then the same run fails as a first one and
  succeeds as a later one.
-/

set_option autoImplicit false

namespace ReleaseRefs.Proofs.Cli

open ReleaseRefs.Cli
open ReleaseRefs.Proofs.Config (AlikeFiles AlikeVariables ValidVerbosity load_alike)
open ReleaseRefs.Proofs.Git (Told publication_repeats sessionWithGit trace)

/-! ### What a run comes to -/

/-- What a run comes to, its log aside. -/
structure Upshot where
  exit : ExitCode
  /-- The texts that are written, such as the line about the result or about a failure. -/
  texts : List (Log.Stream × String)
  actions : List Git.Action
  escaped : Option Raised

/-- The text of an output that is no line of the log. -/
def text? : Output → Option (Log.Stream × String)
  | .log _ => none
  | .text stream s => some (stream, s)

/-- What an outcome has beside the log. -/
def upshot (o : Outcome) : Upshot := ⟨o.exit, o.outputs.filterMap text?, o.actions, o.escaped⟩

/-- Lines of a journal are no texts. -/
theorem logged_texts (j : Log.Journal) (e : Log.Event) : (logged j e).filterMap text? = [] := by
  unfold logged
  split <;> rfl

theorem flatMap_logged_texts (j : Log.Journal) (es : List Log.Event) :
    (es.flatMap (logged j)).filterMap text? = [] := by
  induction es with
  | nil => rfl
  | cons e es ih => rw [List.flatMap_cons, List.filterMap_append, logged_texts, ih]; rfl

theorem tell_texts (j : Log.Journal) (es : List Log.Event) :
    (tell j es).1.filterMap text? = [] := by
  induction es with
  | nil => rfl
  | cons e es ih =>
    unfold Cli.tell
    simp only
    split
    · rfl
    · rw [List.filterMap_append, logged_texts, ih]
      rfl

/-! ### Commands -/

section Commands

variable {γ δ : Type} (p : Git.Program γ) (q : Git.Program δ)

/-- A second end of a run echoes a first one: if its git gives the answers that the first run got,
then it comes to the same, leaves git behind these answers, and leaves a console with the same
complaint. They are the answers to the actions of the first run. -/
def Echoes (f : γ) (g : δ) (x : Outcome × Tools γ) (y : Outcome × Tools δ) : Prop :=
  ∃ answers, Told p f answers x.2.git ∧ x.1.actions = trace answers ∧
    ∀ h, Told q g answers h →
      upshot y.1 = upshot x.1 ∧ y.2.git = h ∧ y.2.console.complaint? = x.2.console.complaint?

/-- Consoles do the same with what is printed: they have nothing to write, or the same complaint. -/
def SamePrint (t : Tools γ) (u : Tools δ) : Prop :=
  u.console.complaint? = t.console.complaint?

variable {t : Tools γ} {u : Tools δ} (same : SamePrint t u)

variable {p q} in
include same in
/-- Ends of runs that use no tools echo each other if they come to the same. -/
theorem Echoes.idle {o o' : Outcome} (alike : upshot o' = upshot o) (nothing : o.actions = []) :
    Echoes p q t.git u.git (o, t) (o', u) :=
  ⟨[], .nil t.git, nothing, fun _ told => ⟨alike, told.nil_eq.symm, same⟩⟩

variable (j j' : Log.Journal)

/-- The exit and the text of a failure do not depend on the journal. -/
theorem reported_same (r : Raised) :
    (reported j' r).1 = (reported j r).1 ∧
      (reported j' r).2.filterMap text? = (reported j r).2.filterMap text? := by
  refine ⟨rfl, ?_⟩
  simp only [reported, List.filterMap_append]
  split <;> simp only [logged_texts]

include same in
/-- The end of a command depends on the result and on the complaint of the console. -/
theorem concluded_same (remote : String) (result : Except Raised Publish.Outcome) :
    let x := concluded j t.console remote result
    let y := concluded j' u.console remote result
    y.1.1 = x.1.1 ∧ y.1.2.filterMap text? = x.1.2.filterMap text? ∧
      y.2.complaint? = x.2.complaint? := by
  cases result with
  | error r =>
    obtain ⟨exit, texts⟩ := reported_same j j' r
    exact ⟨exit, texts, same⟩
  | ok o =>
    obtain ⟨written, left⟩ := Console.print_congr same (o.line remote)
    simp only [concluded, written]
    cases (t.console.print (o.line remote)).1 with
    | ok text => exact ⟨rfl, rfl, left⟩
    | error e =>
      obtain ⟨exit, texts⟩ := reported_same j j' (.plain (.fault .encoding
        (e.message ++ encodingHint)))
      exact ⟨exit, texts, left⟩

include same in
/-- A publication depends on the answers of git only, and what is told of it on its result. -/
theorem publishAndTell_echoes (config : Config) (kind : Ref.Kind) (name : String) :
    Echoes p q t.git u.git (publishAndTell p j config kind name t)
      (publishAndTell q j' config kind name u) := by
  obtain ⟨answers, traced, again⟩ :=
    publication_repeats p q config kind name (.start (.unopened t.git Git.Repository.usualTimeout))
  refine ⟨answers, traced.told, traced.actions, fun h told => ?_⟩
  have repeated : publishing q config kind name u.git
      = ((publishing p config kind name t.git).1,
        sessionWithGit (publishing p config kind name t.git).2 h) := again u.git h told
  unfold publishAndTell upshot
  rw [repeated]
  obtain ⟨exit, texts, left⟩ := concluded_same same j.unbind j'.unbind config.remote
    (publishing p config kind name t.git).1
  refine ⟨?_, rfl, left⟩
  simp only [List.filterMap_append, flatMap_logged_texts, exit, texts]
  rfl

include same in
/-- A command that is refused shows the failure and does nothing. -/
theorem refused_echoes (r : Raised) :
    Echoes p q t.git u.git (idle (reported j r).1 (reported j r).2, t)
      (idle (reported j' r).1 (reported j' r).2, u) := by
  obtain ⟨exit, texts⟩ := reported_same j j' r
  refine .idle same ?_ rfl
  simp only [upshot, Cli.idle, exit, texts]

include same in
/-- A command depends on the options of the settings only. -/
theorem runCommand_echoes {settings settings' : Settings}
    (options : settings'.config = settings.config) (kind : Ref.Kind) (r : PublishRequest) :
    Echoes p q t.git u.git (runCommand p j settings kind r t)
      (runCommand q j' settings' kind r u) := by
  have said : settings'.configFor r.overrides = settings.configFor r.overrides := by
    rw [Settings.configFor, Settings.configFor, options]
  unfold runCommand
  rw [said]
  cases settings.configFor r.overrides with
  | error e => exact refused_echoes p q same j j' e
  | ok config =>
    simp only
    cases Ref.check kind config.tagPrefix r.name with
    | error e => exact refused_echoes p q same j j' e
    | ok _ => exact publishAndTell_echoes p q same j j' config kind r.name

include same in
/-- The words of a command are run on settings with the same options in the same way. -/
theorem runWords_echoes (program : String) {files files' : Files} {settings settings' : Settings}
    {kind : Ref.Kind} {words : List String} (options : settings'.config = settings.config)
    (request :
      CommandRequest.ofWords files' kind words = CommandRequest.ofWords files kind words) :
    Echoes p q t.git u.git (runWords p program files j settings kind words t)
      (runWords q program files' j' settings' kind words u) := by
  unfold runWords
  rw [request]
  cases CommandRequest.ofWords files kind words with
  | error e => exact .idle same rfl (withoutRequest_actions program (.publish kind) e)
  | ok asked =>
    cases asked with
    | page page => exact .idle same rfl rfl
    | publish r => exact runCommand_echoes p q same j j' options kind r

/-- Without settings a run shows the failure, whatever was told before. -/
theorem withoutSettings_upshot {told told' : List Output} (quiet : told.filterMap text? = [])
    (quiet' : told'.filterMap text? = []) (r : Raised) :
    upshot (withoutSettings told' r) = upshot (withoutSettings told r) := by
  unfold withoutSettings
  split
  · split
    · simp only [upshot, idle, List.filterMap_append, quiet, quiet']
    · simp only [upshot, escaping, quiet, quiet']
  · simp only [upshot, escaping, quiet, quiet']

end Commands

/-! ### Runs -/

section Kinds

variable {γ δ : Type} (p : Git.Program γ) (q : Git.Program δ) (program : String)

/-- What a run of the command line comes to, and the tools behind it. -/
def ends (r : Outcome × Machine γ) : Outcome × Tools γ := (r.1, r.2.toTools)

variable {preface preface' : Preface} {kind : Ref.Kind} {words : List String} {m : Machine γ}
  {m' : Machine δ}

/-- What there is to tell of the files with settings can be told by the journal of a machine. -/
def CanTell (preface : Preface) (m : Machine γ) : Prop :=
  (tell m.journal (loadedIn preface m).1).2 = .ok ()

/-- Once the events are told, the settings are those that were loaded. -/
theorem CanTell.settingsIn_eq (told : CanTell preface m) :
    settingsIn preface m = (loadedIn preface m).2 := by
  rw [settingsIn, told]
  rfl

/-- Runs of a command echo each other if they get the same options. -/
theorem runKind_echoes (same : SamePrint m.toTools m'.toTools) (told : CanTell preface m)
    (told' : CanTell preface' m')
    (options : (loadedIn preface' m').2.map Settings.config =
      (loadedIn preface m).2.map Settings.config)
    (request : CommandRequest.ofWords m'.surroundings.files kind words =
      CommandRequest.ofWords m.surroundings.files kind words) :
    Echoes p q m.git m'.git (ends (runKind p program preface kind words m))
      (ends (runKind q program preface' kind words m')) := by
  rw [← told.settingsIn_eq, ← told'.settingsIn_eq] at options
  -- Both runs get settings, or both are refused for the same reason.
  cases loaded : settingsIn preface m with
  | error r =>
    cases loaded' : settingsIn preface' m' with
    | error r' =>
      rw [loaded, loaded'] at options
      cases options
      rw [runKind_refused p program kind words loaded, runKind_refused q program kind words loaded']
      exact .idle same (withoutSettings_upshot (tell_texts _ _) (tell_texts _ _) r)
        (withoutSettings_actions _ r)
    | ok settings' => rw [loaded, loaded'] at options; cases options
  | ok settings =>
    cases loaded' : settingsIn preface' m' with
    | error r' => rw [loaded, loaded'] at options; cases options
    | ok settings' =>
      rw [loaded, loaded'] at options
      rw [runKind_settings p program loaded, runKind_settings q program loaded']
      have echoes := runWords_echoes p q same
        (m.journal.setAt m.surroundings.environment false (threshold preface settings))
        (m'.journal.setAt m'.surroundings.environment false (threshold preface' settings')) program
        (Except.ok.inj options) request
      generalize runWords p _ _ _ _ _ _ _ = x at echoes ⊢
      generalize runWords q _ _ _ _ _ _ _ = y at echoes ⊢
      obtain ⟨answers, told, actions, again⟩ := echoes
      refine ⟨answers, told, actions, fun h told' => ?_⟩
      obtain ⟨alike, after⟩ := again h told'
      refine ⟨?_, after⟩
      -- What was told early is all log.
      simp only [ends, upshot, List.filterMap_append, tell_texts, List.nil_append] at alike ⊢
      exact alike

end Kinds

/-! ### One process -/

section Process

variable {γ : Type} (p : Git.Program γ) (program : String)

/-- A process can get into a state by some runs. Between them, files and variables may change, and
so may git. -/
inductive Reached : Machine γ → Prop where
  | start {surroundings : Surroundings} {git : γ} {m : Machine γ}
      (started : Machine.start surroundings git = .ok m) : Reached m
  | run {m : Machine γ} (reached : Reached m) (words : List String) :
      Reached (Cli.run p program words m).2
  | changed {m : Machine γ} (reached : Reached m) (surroundings : Surroundings) (git : γ) :
      Reached { m with surroundings, git }

/-- No field is bound to events, and no file is chosen. -/
structure Clean (m : Machine γ) : Prop where
  context : m.journal.context = []
  chosen : m.chosen = none

/-- A process starts with nothing bound and nothing chosen. -/
theorem start_clean {surroundings : Surroundings} {git : γ} {m : Machine γ}
    (started : Machine.start surroundings git = .ok m) : Clean m := by
  cases extended : Config.VariableFile.extend surroundings.files surroundings.environment with
  | error f =>
    rw [Machine.start, extended] at started
    cases started
  | ok env =>
    rw [Machine.start_of_extend extended] at started
    cases started
    exact ⟨rfl, rfl⟩

/-- However a run ends, it leaves nothing bound and nothing chosen. -/
theorem run_clean (words : List String) {m : Machine γ} (clean : Clean m) :
    Clean (run p program words m).2 := by
  unfold Cli.run
  -- A run that ends before its settings are read leaves all as it was.
  split
  · exact clean
  · split
    · exact clean
    · exact clean
    · next preface kind rest _ =>
      unfold runKind
      simp only
      split
      · exact ⟨clean.context, rfl⟩
      · exact ⟨rfl, rfl⟩

/-- No run changes files or variables. -/
theorem run_surroundings (words : List String) (m : Machine γ) :
    (run p program words m).2.surroundings = m.surroundings := by
  unfold Cli.run
  split
  · rfl
  · split
    · rfl
    · rfl
    · unfold runKind
      simp only
      split <;> rfl

/-! ### The console of a process -/

/-- After a run the console has no complaint exactly if it had none before and the line about the
outcome, if the run came to one, was taken. -/
theorem run_complaint_eq_none_iff (words : List String) (m : Machine γ) :
    (run p program words m).2.console.complaint? = none ↔
      m.console.complaint? = none ∧
        ∀ config kind name out, effective? words m = some (config, kind, name) →
          Returned p config kind name m.git out → Taken m.console config out := by
  have printing := run_printing p program words m
  generalize (run p program words m).2.console = left at printing
  cases printing with
  | nothing unreturned =>
    refine ⟨fun silent => ⟨silent, fun config kind name out effective returned => ?_⟩, And.left⟩
    exact absurd returned (unreturned config kind name out effective)
  | @line config kind name out effective returned =>
    rw [Console.print_complaint]
    constructor
    · intro silent
      have taken : Taken m.console config out := by
        cases written : (m.console.print (out.line config.remote)).1 with
        | ok text => exact Console.print_isOk_iff.1 ⟨text, written⟩
        | error u => rw [written] at silent; cases silent
      refine ⟨(taken_iff.1 taken).1, fun _ _ _ out' effective' returned' => ?_⟩
      cases effective.symm.trans effective'
      obtain rfl := returned.unique returned'
      exact taken
    · rintro ⟨-, taken⟩
      obtain ⟨text, written⟩ :=
        Console.print_isOk_iff.2 (taken config kind name out effective returned)
      rw [show (m.toTools.console.print (out.line config.remote)).1 = .ok text from written]

/-- A complaint of the console stays. -/
theorem run_complaint (words : List String) {m : Machine γ} {u : Text.Utf8.Unencodable}
    (complains : m.console.complaint? = some u) :
    (run p program words m).2.console.complaint? = some u := by
  have printing := run_printing p program words m
  generalize (run p program words m).2.console = left at printing
  cases printing with
  | line => exact (Console.print_of_complaint complains _).2
  | nothing => exact complains

/-- A run on a console with a complaint does not succeed in publishing a ref, and tells of none. -/
theorem AsksFor.unwritten {words : List String} {m : Machine γ} {kind : Ref.Kind} {name : String}
    (asks : AsksFor words m kind name) {u : Text.Utf8.Unencodable}
    (complains : m.console.complaint? = some u) :
    (run p program words m).1.exit ≠ .success ∧
      ∀ s, .text .out s ∉ (run p program words m).1.outputs := by
  have untaken (config : Config) (out : Publish.Outcome) : ¬ Taken m.console config out := by
    intro taken
    cases complains.symm.trans (taken_iff.1 taken).1
  constructor
  · intro success
    obtain ⟨config, out, -, -, taken⟩ := (asks.success_iff p program).1 success
    exact untaken config out taken
  · intro s member
    obtain ⟨config, out, -, -, taken, -⟩ := (asks.text_iff p program).1 member
    exact untaken config out taken

/-- Once the console has a complaint, it keeps it through all further runs of the process. None of
them that is asked to publish a ref ends with success or tells of an outcome, whatever the
publication comes to. -/
theorem runs_complaint (all : List (List String)) {m : Machine γ} {u : Text.Utf8.Unencodable}
    (complains : m.console.complaint? = some u) :
    (runs p program all m).2.console.complaint? = some u ∧
      List.Forall₂ (fun words o => ∀ kind name, AsksFor words m kind name →
        o.exit ≠ .success ∧ ∀ s, .text .out s ∉ o.outputs) all (runs p program all m).1 := by
  induction all generalizing m with
  | nil => exact ⟨complains, .nil⟩
  | cons words rest ih =>
    obtain ⟨stays, later⟩ := ih (run_complaint p program words complains)
    refine ⟨stays, .cons (fun kind name asks => asks.unwritten p program complains) ?_⟩
    -- What the words of later runs ask for depends on the files, which are the same.
    refine later.imp fun words' o told kind name asks => told kind name ?_
    obtain ⟨preface, rest', r, request, asked, named⟩ := asks
    exact ⟨preface, rest', r, request, by rw [run_surroundings]; exact asked, named⟩

variable {p program}

/-- After any runs nothing is bound and nothing is chosen. -/
theorem Reached.clean {m : Machine γ} (reached : Reached p program m) : Clean m := by
  induction reached with
  | start started => exact start_clean started
  | run _ words clean => exact run_clean p program words clean
  | changed _ _ _ clean => exact ⟨clean.context, clean.chosen⟩

/-- Runs one after the other lead from one state of the process to another. -/
theorem Reached.runs {m : Machine γ} (reached : Reached p program m) (all : List (List String)) :
    Reached p program (Cli.runs p program all m).2 := by
  induction all generalizing m with
  | nil => exact reached
  | cons words rest ih => exact ih (reached.run words)

end Process

/-! ### Runs that ask for the same -/

/-- A journal that is set up can tell all events. -/
theorem tell_setup {j : Log.Journal} {s : Log.Setup} (set : j.setup = some s)
    (es : List Log.Event) : (tell j es).2 = .ok () := by
  induction es with
  | nil => rfl
  | cons e es ih =>
    have taken : (logged j e).findSome? Output.refusal? = none := by
      refine List.findSome?_eq_none_iff.2 fun o mem => ?_
      obtain ⟨l, rfl, written⟩ := mem_logged mem
      have stream := Log.Journal.write_stream_of_setup j s e l set written
      simp only [Output.refusal?, Output.stream, stream]
    unfold Cli.tell
    simp only [taken, ih]

/-- Two requests are the same, apart from flags about the log. -/
inductive SameRequest : Except UsageError Request → Except UsageError Request → Prop where
  | refl (request : Except UsageError Request) : SameRequest request request
  | flags {preface preface' : Preface} (chosen : preface'.config = preface.config)
      (kind : Ref.Kind) (rest : List String) :
      SameRequest (.ok (.command preface kind rest)) (.ok (.command preface' kind rest))

section Independence

variable {γ δ : Type} {words words' : List String} {m : Machine γ} {m' : Machine δ}

/-- Standard output takes what a fresh process tells of the files with settings. -/
def EarlyTaken (words : List String) (m : Machine γ) : Prop :=
  ∀ preface kind rest, Asks words preface kind rest →
    (tell .fresh (loadedIn preface m).1).2 = .ok ()

/-- A machine with nothing bound can tell what a fresh process can. -/
theorem Clean.canTell {preface : Preface} (clean : Clean m)
    (taken : (tell .fresh (loadedIn preface m).1).2 = .ok ()) : CanTell preface m := by
  unfold CanTell
  -- A journal that was set up writes to standard error, which takes everything.
  cases set : m.journal.setup with
  | some s => exact tell_setup set _
  | none =>
    have fresh : m.journal = .fresh := by
      rw [show m.journal = ⟨m.journal.setup, m.journal.context⟩ from rfl, set, clean.context]
      rfl
    rw [fresh]
    exact taken

/-- A run asks for a verbosity that there is, if it gets as far as that. -/
def AsksValidVerbosity (words : List String) (w : Surroundings) : Prop :=
  ∀ preface kind rest, Asks words preface kind rest → ValidVerbosity w preface.config

/-- Two runs ask for the same. They are the same, or they differ in what they say about the log
only: with flags, in variables, or by a verbosity that there is. -/
inductive Alike (words : List String) (m : Machine γ) (words' : List String) (m' : Machine δ) :
    Prop where
  | same (request : words' = words) (surroundings : m'.surroundings = m.surroundings)
  | varied (empty : words'.isEmpty = words.isEmpty)
      (request : SameRequest (Request.ofWords words) (Request.ofWords words'))
      (files : AlikeFiles m.surroundings.files m'.surroundings.files)
      (environment : AlikeVariables m.surroundings.environment m'.surroundings.environment)
      (valid : AsksValidVerbosity words m.surroundings)
      (valid' : AsksValidVerbosity words' m'.surroundings)

variable (p : Git.Program γ) (q : Git.Program δ) (program : String)

section Requests

variable (clean : Clean m) (clean' : Clean m') (same : SamePrint m.toTools m'.toTools)
  (taken : EarlyTaken words m) (taken' : EarlyTaken words' m')
  (asked : ∀ kind rest, CommandRequest.ofWords m'.surroundings.files kind rest =
    CommandRequest.ofWords m.surroundings.files kind rest)
include clean clean' same taken taken' asked

/-- Runs of a command echo each other if they load the same options. -/
theorem command_echoes {preface preface' : Preface} {kind : Ref.Kind} {rest : List String}
    (request : Asks words preface kind rest) (request' : Asks words' preface' kind rest)
    (options : (loadedIn preface' m').2.map Settings.config =
      (loadedIn preface m).2.map Settings.config) :
    Echoes p q m.git m'.git (ends (run p program words m)) (ends (run q program words' m')) := by
  have early := taken preface kind rest request
  have early' := taken' preface' kind rest request'
  rw [run_command p program m request, run_command q program m' request']
  exact runKind_echoes p q program same (clean.canTell early) (clean'.canTell early') options
    (asked kind rest)

/-- Runs with the same request echo each other if they load the same options for it. -/
theorem request_echoes (empty : words'.isEmpty = words.isEmpty)
    (request : SameRequest (Request.ofWords words) (Request.ofWords words'))
    (loads : ∀ preface preface' kind rest, preface'.config = preface.config →
      Asks words preface kind rest → Asks words' preface' kind rest →
      (loadedIn preface' m').2.map Settings.config = (loadedIn preface m).2.map Settings.config) :
    Echoes p q m.git m'.git (ends (run p program words m)) (ends (run q program words' m')) := by
  generalize read : Request.ofWords words = r at request
  generalize read' : Request.ofWords words' = r' at request
  cases request with
  | flags chosen kind rest =>
    exact command_echoes p q program clean clean' same taken taken' asked read read'
      (loads _ _ kind rest chosen read read')
  | refl =>
    rcases r with e | page | ⟨preface, kind, rest⟩
    · simp only [Cli.run, empty, read, read']
      split
      · exact .idle same rfl rfl
      · exact .idle same rfl (withoutRequest_actions program .tool e)
    · simp only [Cli.run, empty, read, read']
      split
      · exact .idle same rfl rfl
      · exact .idle same rfl rfl
    · exact command_echoes p q program clean clean' same taken taken' asked read read'
        (loads _ _ kind rest rfl read read')

end Requests

/-- Runs that ask for the same echo each other. -/
theorem alike_echoes (clean : Clean m) (clean' : Clean m') (alike : Alike words m words' m')
    (same : SamePrint m.toTools m'.toTools) (taken : EarlyTaken words m)
    (taken' : EarlyTaken words' m') :
    Echoes p q m.git m'.git (ends (run p program words m)) (ends (run q program words' m')) := by
  cases alike with
  | same request surroundings =>
    subst request
    -- The same words load the same, whatever they say about the log.
    refine request_echoes p q program clean clean' same taken taken'
      (fun _ _ => by rw [surroundings]) rfl (.refl _) fun preface preface' _ _ chosen _ _ => ?_
    rw [loadedIn, loadedIn, surroundings, chosen]
  | varied empty request files environment valid valid' =>
    refine request_echoes p q program clean clean' same taken taken' files.request empty request
      fun preface preface' kind rest chosen read read' => ?_
    have verbosity := valid preface kind rest read
    have verbosity' := valid' preface' kind rest read'
    rw [chosen] at verbosity'
    rw [loadedIn, loadedIn, chosen]
    exact load_alike m.surroundings m'.surroundings files environment verbosity verbosity'

/-- Runs in one process do not depend on the log, nor on the runs before them, as long as the
console can write.

For all programs, and for all states that processes can get into by any runs, with other files and
variables and another git in between: let two runs ask for the same, apart from what they say about
the log. The first one takes some answers from git, to the actions that it makes. If the git of the
second one gives these answers too, then it comes to the same: it has the same exit, the same texts
on both streams, the same actions and the same failure that escapes, and it leaves git behind these
answers. This takes two things. Standard output takes the lines about files with settings that a
fresh process writes there, and the console has no complaint, or the same one, in both processes;
then it has the same complaint behind the runs.

After every run, no field is bound to the log, and no file is chosen for settings. -/
theorem runs_independent (reached : Reached p program m) (reached' : Reached q program m')
    (alike : Alike words m words' m') (taken : EarlyTaken words m)
    (taken' : EarlyTaken words' m') (same : m'.console.complaint? = m.console.complaint?) :
    (∃ answers, Told p m.git answers (run p program words m).2.git ∧
      (run p program words m).1.actions = trace answers ∧
      ∀ g, Told q m'.git answers g →
        upshot (run q program words' m').1 = upshot (run p program words m).1 ∧
        (run q program words' m').2.git = g ∧
        (run q program words' m').2.console.complaint? =
          (run p program words m).2.console.complaint?) ∧
    (run p program words m).2.journal.context = [] ∧ (run p program words m).2.chosen = none := by
  have clean := run_clean p program words reached.clean
  exact ⟨alike_echoes p q program reached.clean reached'.clean alike same taken taken',
    clean.context, clean.chosen⟩

end Independence

/-- Git keeps one branch, and no tags. -/
def oneBranch : Git.Program (List String) := Git.keeping ["release-1.0"] []

/-- A process after two runs, of which the second one failed. Since then there are variables about
the log. -/
def laterRemote : Machine (List String) :=
  let earlier := [["-q", "branch", "release-1.0"], ["tag", "v1.0"]]
  let before := (runs oneBranch "cli" earlier bareRemote).2
  let about := [("REF_PUBLISHER_VERBOSITY", "error"), (Log.levelName, "debug"),
    (Log.formatName, "json")]
  { before with
      surroundings := ⟨bareRemote.surroundings.files, bareRemote.surroundings.environment ++ about⟩
      git := bareRemote.git }

/-- Before the same git, a run with all of the log in such a process comes to the same as one
without it in a fresh process. -/
theorem runs_independent_verbose :
    Reached oneBranch "cli" bareRemote ∧ Reached oneBranch "cli" laterRemote ∧
      Alike ["branch", "release-1.0"] bareRemote ["-vv", "branch", "release-1.0"] laterRemote ∧
      EarlyTaken ["branch", "release-1.0"] bareRemote ∧
      EarlyTaken ["-vv", "branch", "release-1.0"] laterRemote ∧
      laterRemote.console.complaint? = bareRemote.console.complaint? ∧
      upshot (run oneBranch "cli" ["-vv", "branch", "release-1.0"] laterRemote).1 =
        upshot (run oneBranch "cli" ["branch", "release-1.0"] bareRemote).1 := by
  have started : Machine.start bareRemote.surroundings [] = .ok bareRemote :=
    Machine.start_of_extend (ok_of_toOption (by decide +kernel)) []
  have reached : Reached oneBranch "cli" bareRemote := .start started
  have reached' : Reached oneBranch "cli" laterRemote := .changed (reached.runs _) _ _
  have read : Request.ofWords ["branch", "release-1.0"]
      = .ok (.command ⟨none, 0, false⟩ .branch ["release-1.0"]) :=
    ok_of_toOption (by decide +kernel)
  have read' : Request.ofWords ["-vv", "branch", "release-1.0"]
      = .ok (.command ⟨none, 2, false⟩ .branch ["release-1.0"]) :=
    ok_of_toOption (by decide +kernel)
  have environment : AlikeVariables bareRemote.surroundings.environment
      laterRemote.surroundings.environment := by
    unfold AlikeVariables
    decide +kernel
  have alike : Alike ["branch", "release-1.0"] bareRemote ["-vv", "branch", "release-1.0"]
      laterRemote := by
    refine .varied rfl ?_ (.refl _) environment ?_ ?_
    · rw [read, read']
      exact .flags (by rfl) _ _
    · rintro preface kind rest request
      cases read.symm.trans request
      exact Config.validVerbosity_of_load (s := ⟨rehearsal "origin", .warning⟩)
        (ok_of_toOption (by decide +kernel))
    · rintro preface kind rest request
      cases read'.symm.trans request
      exact Config.validVerbosity_of_load (s := ⟨rehearsal "origin", .error⟩)
        (ok_of_toOption (by decide +kernel))
  have taken : EarlyTaken ["branch", "release-1.0"] bareRemote := by
    intro preface kind rest request
    cases read.symm.trans request
    exact ok_of_toOption (by decide +kernel)
  have taken' : EarlyTaken ["-vv", "branch", "release-1.0"] laterRemote := by
    intro preface kind rest request
    cases read'.symm.trans request
    exact ok_of_toOption (by decide +kernel)
  have same : laterRemote.console.complaint? = bareRemote.console.complaint? := by decide +kernel
  obtain ⟨⟨answers, told, -, again⟩, -⟩ :=
    runs_independent oneBranch oneBranch "cli" reached reached' alike taken taken' same
  exact ⟨reached, reached', alike, taken, taken', same, (again _ told).1⟩

/-- A file with settings whose name has half of a character. -/
def halfFile : String := String.ofList (Text.ofCodePoints [0xDCFF]) ++ ".yaml"

/-- Standard output does not take the line about such a file, which a fresh process writes there. In
it, a run with this file fails and does nothing. After another run, before the same git and with the
same files and variables, the same run succeeds. -/
theorem early_line_decides :
    let words := ["-c", halfFile, "branch", "release-1.0"]
    let before := (run oneBranch "cli" ["branch", "release-1.0"] bareRemote).2
    let later := { before with surroundings := bareRemote.surroundings, git := bareRemote.git }
    ((run oneBranch "cli" words bareRemote).1.exit.number = 1 ∧
      (run oneBranch "cli" words bareRemote).1.actions = []) ∧
      (run oneBranch "cli" words later).1.exit.number = 0 :=
  ⟨⟨by decide +kernel, by decide +kernel⟩, by decide +kernel⟩

/-- A run whose line about the outcome has half of a character leaves a complaint to the console.
After it, a run fails that succeeds in a fresh process, before the same git and with the same files
and variables. -/
theorem kept_line_decides :
    let words := ["branch", "release-1.0"]
    let before := (run oneBranch "cli" (words ++ ["--remote", halfRemote]) bareRemote).2
    let later := { before with git := bareRemote.git }
    (run oneBranch "cli" words bareRemote).1.exit.number = 0 ∧
      (run oneBranch "cli" words later).1.exit.number = 1 :=
  ⟨by decide +kernel, by decide +kernel⟩

end ReleaseRefs.Proofs.Cli
