import ReleaseRefs.Proofs.Cli.GitProtocol
import ReleaseRefs.Proofs.Cli.Refused

/-!
# `ReleaseRefs.Proofs.Cli.Streams`: what a run writes to which stream

Standard output is for what a run was asked for, and standard error for all that it tells beside.
A run keeps to this as soon as its journal is set up, which takes settings. What there is to tell
about the files with settings comes earlier. In a fresh process it goes to standard output, even if
the run is to be quiet.

- `Late` is what may follow once the settings are read, with `Aside` for what goes to standard error
  and `Announced` for what a run is asked for.
- `run_streams`: in a fresh process the outputs are the lines about the files with settings, on
  standard output, and then outputs that are `Late`.
- `missing_file_on_out`: without a project file there is such a line.
-/

set_option autoImplicit false

namespace ReleaseRefs.Proofs.Cli

open ReleaseRefs.Cli
open ReleaseRefs.Proofs.Config (loadFrom_loaded)

/-! ### Lines of a journal -/

/-- The line that a journal writes is made of the event and its filled wording. -/
theorem write_eq_some {j : Log.Journal} {e : Log.Event} {l : Log.Line}
    (written : j.write e = .ok (some l)) :
    ∃ text fields, j.lineFor e.level e.source text fields = some l := by
  unfold Log.Journal.write at written
  cases filled : j.wordingOf e with
  | error f => simp [filled, Except.map] at written
  | ok text =>
    simp only [filled, Except.map, Except.ok.injEq] at written
    exact ⟨text, _, written⟩

theorem mem_logged {j : Log.Journal} {e : Log.Event} {o : Output} (mem : o ∈ logged j e) :
    ∃ l, o = .log l ∧ j.write e = .ok (some l) := by
  unfold logged at mem
  split at mem
  · next l written => exact ⟨l, List.mem_singleton.1 mem, written⟩
  · cases mem

/-- A fresh journal writes to standard output, whatever the level of the event is. -/
theorem logged_fresh {e : Log.Event} {o : Output} (mem : o ∈ logged .fresh e) :
    ∃ l, o = .log l ∧ l.stream = .out ∧ l.record.level = e.level := by
  obtain ⟨l, rfl, written⟩ := mem_logged mem
  obtain ⟨text, fields, line⟩ := write_eq_some written
  cases line
  exact ⟨_, rfl, rfl, rfl⟩

/-- The journal is set up to write from a rank on. -/
def WritesFrom (j : Log.Journal) (least : Nat) : Prop :=
  ∃ s, j.setup = some s ∧ s.threshold = least

section Setup

variable {j : Log.Journal} {least : Nat}

theorem WritesFrom.setAt (j : Log.Journal) (env : Environment) (json : Bool) (least : Nat) :
    WritesFrom (j.setAt env json least) least :=
  ⟨_, rfl, rfl⟩

theorem WritesFrom.bind (set : WritesFrom j least) (fields : Log.Fields) :
    WritesFrom (j.bind fields) least :=
  set

theorem WritesFrom.unbind (set : WritesFrom j least) : WritesFrom j.unbind least := set

/-- Something that goes to standard error. Lines of the log have a rank from the least one on, which
must be known then. -/
inductive Aside (least : Option Nat) : Output → Prop where
  | text (s : String) : Aside least (.text .err s)
  | log {l : Log.Line} {n : Nat} : least = some n → l.stream = .err →
      n ≤ l.record.level.number → Aside least (.log l)

theorem Aside.stream {least : Option Nat} {o : Output} (aside : Aside least o) :
    o.stream = .err := by
  cases aside with
  | text => rfl
  | log _ stream _ => exact stream

/-- A journal that is set up writes to standard error, and only what matters enough. -/
theorem WritesFrom.logged_aside (set : WritesFrom j least) {e : Log.Event} {o : Output}
    (mem : o ∈ logged j e) : Aside (some least) o := by
  obtain ⟨s, set, rank⟩ := set
  obtain ⟨l, rfl, written⟩ := mem_logged mem
  have stream := Log.Journal.write_stream_of_setup j s e l set written
  obtain ⟨text, fields, line⟩ := write_eq_some written
  refine .log rfl stream ?_
  unfold Log.Journal.lineFor at line
  rw [set] at line
  simp only at line
  split at line
  · next admitted =>
    cases line
    simp only [Log.Setup.admits, Bool.and_eq_true, decide_eq_true_eq] at admitted
    -- The git library has a rank of its own, but it has to reach the journal's as well.
    have reached := admitted.2
    rw [rank] at reached
    exact Int.ofNat_le.1 reached
  · cases line

end Setup

/-! ### What there is to tell about files with settings -/

/-- The events about files with settings: there is no project file, or a file has no value. -/
inductive FileEvent (project : Path) : Log.Event → Prop where
  | missing : FileEvent project (Settings.missingEvent project)
  | empty (p : Path) : FileEvent project (Config.File.emptyEvent p)

theorem readLayer_events {fs : Files} {p : Path} {e : Log.Event}
    (mem : e ∈ (Config.File.readLayer fs p).1) : e = Config.File.emptyEvent p := by
  unfold Config.File.readLayer at mem
  split at mem
  · cases mem
  · split at mem
    · split at mem
      · cases mem
      · split at mem
        · cases mem
        · unfold Config.File.entriesOf at mem
          split at mem
          · exact List.mem_singleton.1 mem
          · cases mem
          · cases mem
    · cases mem

theorem readUserLayer_events {w : Surroundings} {e : Log.Event}
    (mem : e ∈ (Settings.readUserLayer w).1) : ∃ p, e = Config.File.emptyEvent p := by
  unfold Settings.readUserLayer at mem
  split at mem
  · cases mem
  · exact ⟨_, readLayer_events mem⟩

/-- Settings tell of nothing but their files. -/
theorem load_events {w : Surroundings} {chosen : Option Path} {e : Log.Event}
    (mem : e ∈ (Settings.load w chosen).1) :
    FileEvent (Settings.projectPath w.files chosen) e := by
  rcases List.mem_append.1 mem with early | read
  · split at early
    · cases early
    · cases List.mem_singleton.1 early
      exact .missing
  · have layers : e ∈ (Config.File.readLayer w.files (Settings.projectPath w.files chosen)).1 ∨
        e ∈ (Settings.readUserLayer w).1 := by
      -- The environment and the check add nothing to what the files have told.
      have loaded := loadFrom_loaded w (Settings.projectPath w.files chosen)
      generalize Settings.loadFrom w (Settings.projectPath w.files chosen) = result at loaded read
      cases loaded with
      | project failed =>
        rw [failed]
        exact .inl read
      | user below above | environment below above | checked below above =>
        rw [below, above]
        exact List.mem_append.1 read
    rcases layers with layer | user
    · rw [readLayer_events layer]
      exact .empty _
    · obtain ⟨p, rfl⟩ := readUserLayer_events user
      exact .empty p

/-- What is told comes of the events. -/
theorem mem_tell {j : Log.Journal} {es : List Log.Event} {o : Output} (mem : o ∈ (tell j es).1) :
    ∃ e ∈ es, o ∈ logged j e := by
  induction es with
  | nil => cases mem
  | cons e es ih =>
    unfold Cli.tell at mem
    simp only at mem
    split at mem
    -- A line that is not taken ends the telling, with nothing of its event.
    · cases mem
    · rcases List.mem_append.1 mem with first | later
      · exact ⟨e, List.mem_cons_self, first⟩
      · obtain ⟨e', among, written⟩ := ih later
        exact ⟨e', List.mem_cons_of_mem e among, written⟩

/-! ### What follows once the settings are read -/

/-- What follows once the settings are read: all goes to standard error, unless the run succeeds.
Then what was asked for comes last, on standard output. -/
inductive Late (least : Option Nat) (announced : String → Prop) :
    ExitCode → List Output → Prop where
  | refused {exit : ExitCode} {os : List Output} : exit ≠ .success → (∀ o ∈ os, Aside least o) →
      Late least announced exit os
  | announced {os : List Output} {s : String} : (∀ o ∈ os, Aside least o) → announced s →
      Late least announced .success (os ++ [.text .out s])

namespace Late

variable {least : Option Nat} {announced : String → Prop} {exit : ExitCode} {os : List Output}

/-- What was asked for may be described in another way. -/
theorem mono {announced' : String → Prop} (late : Late least announced exit os)
    (same : ∀ s, announced s → announced' s) : Late least announced' exit os := by
  cases late with
  | refused failed aside => exact .refused failed aside
  | announced aside asked => exact .announced aside (same _ asked)

/-- More may be told beside in front. -/
theorem prepend (late : Late least announced exit os) {told : List Output}
    (aside : ∀ o ∈ told, Aside least o) : Late least announced exit (told ++ os) := by
  cases late with
  | refused failed rest =>
    exact .refused failed fun o mem => (List.mem_append.1 mem).elim (aside o) (rest o)
  | announced rest asked =>
    rw [← List.append_assoc]
    exact .announced (fun o mem => (List.mem_append.1 mem).elim (aside o) (rest o)) asked

/-- A failure with one text about it. -/
theorem failed_with (s : String) (failed : exit ≠ .success) :
    Late least announced exit [.text .err s] :=
  .refused failed fun o mem => by
    rw [List.mem_singleton.1 mem]
    exact .text s

/-- Nothing but what was asked for. -/
theorem alone {s : String} (asked : announced s) :
    Late least announced .success [.text .out s] := by
  have late : Late least announced .success ([] ++ [.text .out s]) := .announced nofun asked
  exact late

/-- A line of the log never goes to standard output. -/
theorem log_stream (late : Late least announced exit os) {l : Log.Line} (mem : .log l ∈ os) :
    l.stream = .err := by
  cases late with
  | refused _ aside => exact (aside _ mem).stream
  | announced aside _ =>
    rcases List.mem_append.1 mem with told | last
    · exact (aside _ told).stream
    · cases List.mem_singleton.1 last

end Late

theorem withoutRequest_late (program : String) (c : Command) (e : UsageError) (least : Option Nat)
    (announced : String → Prop) :
    Late least announced (withoutRequest program c e).exit
      (withoutRequest program c e).outputs := by
  unfold withoutRequest
  simp only
  split
  · exact .refused nofun nofun
  · exact .failed_with _ nofun

/-- A failure of the settings is told on standard error, if at all. -/
theorem withoutSettings_late (told : List Output) (r : Raised) (least : Option Nat)
    (announced : String → Prop) :
    ∃ os, (withoutSettings told r).outputs = told ++ os ∧
      Late least announced (withoutSettings told r).exit os := by
  unfold withoutSettings
  split
  · split
    · exact ⟨_, rfl, .failed_with _ nofun⟩
    · exact ⟨[], (List.append_nil told).symm, .refused nofun nofun⟩
  · exact ⟨[], (List.append_nil told).symm, .refused nofun nofun⟩

section Command

variable {γ : Type} (p : Git.Program γ) {j : Log.Journal} {least : Nat}
  (announced : String → Prop)

/-- No failure is told as a success. -/
theorem ofFailure_exit_ne_success (f : Failure) : (Report.ofFailure f).exit ≠ .success := by
  cases f <;> simp [Report.ofFailure]

theorem reported_late (set : WritesFrom j least) (r : Raised) :
    Late (some least) announced (reported j r).1 (reported j r).2 := by
  refine (Late.failed_with _ (ofFailure_exit_ne_success r.failure)).prepend fun o mem => ?_
  split at mem
  · exact set.logged_aside mem
  · cases mem

/-- The line about the result of publishing a ref. -/
def IsResult (config : Config) (kind : Ref.Kind) (name : String) (git : γ) (s : String) : Prop :=
  ∃ o, (publishing p config kind name git).1 = .ok o ∧ s = printed (o.line config.remote)

theorem concluded_late (set : WritesFrom j least) (console : Console) {config : Config}
    {kind : Ref.Kind} {name : String} {git : γ} {result : Except Raised Publish.Outcome}
    (published : (publishing p config kind name git).1 = result) :
    Late (some least) (IsResult p config kind name git)
      (concluded j console config.remote result).1.1
      (concluded j console config.remote result).1.2 := by
  cases result with
  | error r => exact reported_late _ set r
  | ok o =>
    simp only [concluded]
    cases written : (console.print (o.line config.remote)).1 with
    | error u => exact reported_late _ set _
    | ok text =>
      -- What is written is the line alone: a console that has more to write writes nothing.
      obtain ⟨-, -, rfl⟩ := Console.print_eq_ok_iff.1 written
      exact .alone ⟨o, published, rfl⟩

theorem publishAndTell_late (set : WritesFrom j least) (config : Config) (kind : Ref.Kind)
    (name : String) (t : Tools γ) :
    Late (some least) (IsResult p config kind name t.git)
      (publishAndTell p j config kind name t).1.exit
      (publishAndTell p j config kind name t).1.outputs := by
  have told : ∀ o ∈ (publishing p config kind name t.git).2.events.flatMap
      (logged (j.bind (boundFields kind name))), Aside (some least) o := by
    intro o mem
    obtain ⟨e, -, written⟩ := List.mem_flatMap.1 mem
    exact (set.bind _).logged_aside written
  exact (concluded_late p set.unbind t.console rfl).prepend told

/-- What a command is asked for: a page, or the line about the result of publishing its ref. -/
inductive CommandAnnounced (program : String) (files : Files) (settings : Settings)
    (kind : Ref.Kind) (words : List String) (git : γ) : String → Prop where
  | page {page : Page} : CommandRequest.ofWords files kind words = .ok (.page page) →
      CommandAnnounced program files settings kind words git (withoutColours (page.text program))
  | result {r : PublishRequest} {config : Config} {s : String} :
      CommandRequest.ofWords files kind words = .ok (.publish r) →
      settings.configFor r.overrides = .ok config → IsResult p config kind r.name git s →
      CommandAnnounced program files settings kind words git s

theorem runWords_late (set : WritesFrom j least) (program : String) (files : Files)
    (settings : Settings) (kind : Ref.Kind) (words : List String) (t : Tools γ) :
    Late (some least) (CommandAnnounced p program files settings kind words t.git)
      (runWords p program files j settings kind words t).1.exit
      (runWords p program files j settings kind words t).1.outputs := by
  unfold runWords
  split
  · exact withoutRequest_late program _ _ _ _
  · next page asked => exact .alone (.page asked)
  · next r asked =>
    unfold runCommand
    split
    · exact reported_late _ set _
    · next config configured =>
      split
      · exact reported_late _ set _
      · exact (publishAndTell_late p set config kind r.name t).mono
          fun s result => .result asked configured result

end Command

/-! ### Runs of the command line -/

section Runs

variable {γ : Type}

/-- The settings of a run. There are none if an event about their files cannot be told. -/
abbrev settingsIn (preface : Preface) (m : Machine γ) : Except Raised Settings :=
  (tell m.journal (loadedIn preface m).1).2.bind fun _ => (loadedIn preface m).2

/-- The words of a run ask for a command. -/
abbrev Asks (words : List String) (preface : Preface) (kind : Ref.Kind) (rest : List String) :
    Prop :=
  Request.ofWords words = .ok (.command preface kind rest)

/-- What stands before the command, if the words of a run ask for one. -/
def asked? (words : List String) : Option Preface :=
  if words.isEmpty then none
  else
    match Request.ofWords words with
    | .ok (.command preface _ _) => some preface
    | _ => none

/-- What a run tells about the files with settings. -/
def early (words : List String) (m : Machine γ) : List Output :=
  match asked? words with
  | none => []
  | some preface => (tell m.journal (loadedIn preface m).1).1

/-- The least rank of what a run logs, which is known once there are settings: quiet counts more
than verbose, and verbose more than the settings. -/
def leastRank? (words : List String) (m : Machine γ) : Option Nat :=
  (asked? words).bind fun preface => (settingsIn preface m).toOption.map (threshold preface)

/-- What a run is asked for: a page about the tool or a command, or the line about the result of
publishing a ref. -/
inductive Announced (p : Git.Program γ) (program : String) (words : List String)
    (m : Machine γ) : String → Prop where
  | page {page : Page} : Request.ofWords words = .ok (.page page) →
      Announced p program words m (withoutColours (page.text program))
  | commandPage {preface : Preface} {kind : Ref.Kind} {rest : List String} {page : Page} :
      Request.ofWords words = .ok (.command preface kind rest) →
      CommandRequest.ofWords m.surroundings.files kind rest = .ok (.page page) →
      Announced p program words m (withoutColours (page.text program))
  | result {config : Config} {kind : Ref.Kind} {name s : String} :
      effective? words m = some (config, kind, name) → IsResult p config kind name m.git s →
      Announced p program words m s

/-- A line about the files with settings on standard output. -/
def Misplaced (o : Output) : Prop :=
  ∃ project e l, FileEvent project e ∧ Log.Journal.fresh.write e = .ok (some l) ∧ o = .log l ∧
    l.stream = .out

variable {words : List String} {m : Machine γ} {preface : Preface} {kind : Ref.Kind}
  {rest : List String}

theorem Asks.asked (asks : Asks words preface kind rest) : asked? words = some preface := by
  simp [asked?, isEmpty_of_command asks, asks]

/-- Nothing else asks for a command. -/
theorem Asks.of_asked (asked : asked? words = some preface) :
    ∃ kind rest, Asks words preface kind rest := by
  unfold asked? at asked
  split at asked
  · cases asked
  · split at asked
    · next preface' kind rest request =>
      cases asked
      exact ⟨kind, rest, request⟩
    · cases asked

theorem Asks.effective (asks : Asks words preface kind rest) :
    effective? words m = effectiveFor? preface kind rest m := by
  simp [effective?, isEmpty_of_command asks, asks]

section Outputs

variable (p : Git.Program γ) (program : String)

variable {p program} in
/-- What a command is asked for is what the run is asked for. -/
theorem Asks.announced (asks : Asks words preface kind rest) {settings : Settings}
    (loaded : settingsIn preface m = .ok settings) {s : String}
    (told : CommandAnnounced p program m.surroundings.files settings kind rest m.git s) :
    Announced p program words m s := by
  cases told with
  | page asked => exact .commandPage asks asked
  | result asked configured result =>
    refine .result ?_ result
    rw [asks.effective, effectiveFor?]
    simp [loaded, asked, configured, Except.toOption]

/-- A run without a command tells nothing but what it is asked for. -/
theorem run_late_of_unasked (unasked : asked? words = none) :
    Late none (Announced p program words m) (run p program words m).1.exit
      (run p program words m).1.outputs := by
  unfold run
  split
  · exact .failed_with _ nofun
  · split
    · exact withoutRequest_late program .tool _ _ _
    · next page request => exact .alone (.page request)
    · next preface kind rest request =>
      have asks : Asks words preface kind rest := request
      cases asks.asked.symm.trans unasked

/-- A run with a command that gets settings. -/
theorem runKind_settings {settings : Settings} (loaded : settingsIn preface m = .ok settings) :
    let journal := m.journal.setAt m.surroundings.environment false (threshold preface settings)
    let ran := runWords p program m.surroundings.files journal settings kind rest m.toTools
    runKind p program preface kind rest m =
      ({ ran.1 with outputs := (tell m.journal (loadedIn preface m).1).1 ++ ran.1.outputs },
        { m with toTools := ran.2, journal := journal.unbind, chosen := none }) := by
  unfold runKind
  simp only [loaded]

/-- A run with a command first tells of the files with settings. -/
theorem Asks.late (asks : Asks words preface kind rest) :
    ∃ late, (run p program words m).1.outputs =
        (tell m.journal (loadedIn preface m).1).1 ++ late ∧
      Late ((settingsIn preface m).toOption.map (threshold preface))
        (Announced p program words m) (run p program words m).1.exit late := by
  rw [run_command p program m asks]
  cases loaded : settingsIn preface m with
  | error r =>
    rw [runKind_refused p program kind rest loaded]
    exact withoutSettings_late _ r _ _
  | ok settings =>
    rw [runKind_settings p program loaded]
    have set := WritesFrom.setAt m.journal m.surroundings.environment false
      (threshold preface settings)
    exact ⟨_, rfl, (runWords_late p set program _ settings kind rest m.toTools).mono
      fun s told => asks.announced loaded told⟩

/-- A run first tells of the files with settings. -/
theorem run_late (words : List String) (m : Machine γ) :
    ∃ late, (run p program words m).1.outputs = early words m ++ late ∧
    Late (leastRank? words m) (Announced p program words m) (run p program words m).1.exit
      late := by
  cases asked : asked? words with
  | none =>
    rw [early, leastRank?, asked]
    exact ⟨_, rfl, run_late_of_unasked p program asked⟩
  | some preface =>
    obtain ⟨kind, rest, asks⟩ := Asks.of_asked asked
    rw [early, leastRank?, asked]
    exact asks.late p program

/-- What a fresh process tells of the files with settings goes to standard output. -/
theorem early_misplaced (fresh : m.journal = .fresh) {o : Output} (mem : o ∈ early words m) :
    Misplaced o := by
  unfold early at mem
  split at mem
  · cases mem
  · obtain ⟨e, told, written⟩ := mem_tell mem
    rw [fresh] at written
    obtain ⟨l, rfl, stream, -⟩ := logged_fresh written
    obtain ⟨l', same, line⟩ := mem_logged written
    cases same
    exact ⟨_, e, l, load_events told, line, rfl, stream⟩

/-- What a run in a fresh process writes, for every command line, all files and variables, and
every git, whatever it answers.

- First come the lines about the files with settings. All of them go to standard output.
- All that follows goes to standard error, unless the run succeeds. Then one text on standard output
  comes last: the page that was asked for, or the line about the result of publishing the ref.
- Lines of the log that go to standard error have the least rank or a higher one.

So standard output has a line of the log exactly if there is something to tell about the files with
settings. -/
theorem run_streams (words : List String) (fresh : m.journal = .fresh) :
    let o := (run p program words m).1
    ∃ late, o.outputs = early words m ++ late ∧
      (∀ x ∈ early words m, Misplaced x) ∧
      Late (leastRank? words m) (Announced p program words m) o.exit late ∧
      ((∃ l, .log l ∈ o.outputs ∧ l.stream = .out) ↔ early words m ≠ []) := by
  intro o
  obtain ⟨late, outputs, shape⟩ := run_late p program words m
  refine ⟨late, outputs, fun x mem => early_misplaced fresh mem, shape, ?_⟩
  constructor
  · rintro ⟨l, mem, stream⟩ none
    -- Were nothing told early, the line would be a late one, and these go to standard error.
    have followed : .log l ∈ late := by
      rw [outputs, none] at mem
      exact mem
    rw [shape.log_stream followed] at stream
    cases stream
  · intro some
    obtain ⟨x, mem⟩ := List.exists_mem_of_ne_nil _ some
    obtain ⟨_, _, l, _, _, rfl, stream⟩ := early_misplaced fresh mem
    exact ⟨l, outputs ▸ List.mem_append_left late mem, stream⟩

end Outputs

/-- The line about a project without a file, as a fresh journal writes it. -/
def missingLine (project : Path) : Log.Line :=
  ⟨.out, .console, ⟨.info, none, "no_project_config", [("path", .text project.text)]⟩⟩

theorem logged_missing (project : Path) :
    logged .fresh (Settings.missingEvent project) = [.log (missingLine project)] :=
  rfl

/-- The project file of a run. -/
abbrev projectOf (preface : Preface) (m : Machine γ) : Path :=
  Settings.projectPath m.surroundings.files preface.config

/-- In a fresh process a run without a project file starts with a line of the log on standard
output, if this takes the line at all. How quiet the run is to be does not matter. -/
theorem missing_file_on_out (asks : Asks words preface kind rest) (fresh : m.journal = .fresh)
    (missing : m.surroundings.files.contains (projectOf preface m) = false)
    (short : m.surroundings.files.isTooLong (projectOf preface m) = false)
    (taken : (Output.log (missingLine (projectOf preface m))).refusal? = none) :
    ∃ more, early words m = .log (missingLine (projectOf preface m)) :: more := by
  rw [early, asks.asked, fresh]
  simp only [loadedIn, Settings.load, missing, short, Bool.or_self, Bool.false_eq_true, if_false,
    List.singleton_append, Cli.tell, logged_missing, List.findSome?_cons, taken, List.findSome?_nil]
  exact ⟨_, rfl⟩

/-- A fresh process without files. -/
def bareProcess : Machine Unit where
  surroundings := ⟨⟨⟨"/work"⟩, []⟩, [("HOME", "/home")]⟩
  git := ()
  console := .blank
  journal := .fresh
  chosen := none

/-- A run that is to log errors only writes of another event, and to standard output. -/
theorem run_streams_quiet :
    let o := (run Git.absent "cli" ["-q", "branch", "release-1.0"] bareProcess).1
    leastRank? ["-q", "branch", "release-1.0"] bareProcess = some Log.Level.error.number ∧
      ∃ l, .log l ∈ o.outputs ∧ l.stream = .out ∧ l.record.level = .info := by
  have asks : Asks ["-q", "branch", "release-1.0"] ⟨none, 0, true⟩ .branch ["release-1.0"] :=
    ok_of_toOption (by decide +kernel)
  obtain ⟨late, outputs, -⟩ :=
    run_streams Git.absent "cli" ["-q", "branch", "release-1.0"] (m := bareProcess) rfl
  obtain ⟨more, first⟩ := missing_file_on_out (m := bareProcess) asks rfl (by decide +kernel)
    (by decide +kernel) (by decide +kernel)
  refine ⟨by decide +kernel,
    missingLine (projectOf ⟨none, 0, true⟩ bareProcess), ?_, rfl, rfl⟩
  rw [outputs, first]
  exact List.mem_cons_self

end Runs

end ReleaseRefs.Proofs.Cli
