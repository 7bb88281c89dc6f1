import ReleaseRefs.Cli.Console
import ReleaseRefs.Cli.Report
import ReleaseRefs.Cli.Request
import ReleaseRefs.Config.VariableFile
import ReleaseRefs.Git.Repository
import ReleaseRefs.Log.Journal
import ReleaseRefs.Publish.Publisher

/-!
# `ReleaseRefs.Cli.Run`: a run of the command line

- `run` takes the words of a command line through reading, settings, publishing and reporting.
- `Machine` is what runs in one process share; `Outcome` is what one run shows. `Machine.start` sets
  the variables of the file with variables, once for all runs of the process.
- `call` is a process with one run.
- `run_nil`: without words the page about the tool is shown as an error.
-/

set_option autoImplicit false

namespace ReleaseRefs.Cli

/-- Something that a run writes, ended by a line feed. -/
inductive Output where
  | log (l : Log.Line)
  | text (stream : Log.Stream) (s : String)

namespace Output

/-- Where the output goes. -/
def stream : Output → Log.Stream
  | .log l => l.stream
  | .text s _ => s

/-- The output as text, at a time. -/
def shown (time : String) : Output → String
  | .log l => l.text time
  | .text _ s => s

/-- How wide the time is in a line that goes to standard output. -/
def stampWidth : Nat := 19

/-- The reason why standard output does not take the output, if there is one: only the error stream
takes halves of characters. -/
def refusal? (o : Output) : Option Text.Utf8.Unencodable :=
  match o.stream with
  | .out => Text.Utf8.unencodable? (o.shown ("".pushn '0' stampWidth))
  | .err => none

/-- All that goes to one of the streams. The error stream shows halves of characters as escapes. -/
def onStream (time : String) (s : Log.Stream) (os : List Output) : String :=
  "".intercalate ((os.filter fun o => decide (o.stream = s)).map fun o =>
    Text.escapedHalves (o.shown time) ++ "\n")

end Output

/-- What a run shows. -/
structure Outcome where
  exit : ExitCode
  outputs : List Output
  /-- What was done with git. -/
  actions : List Git.Action
  /-- A failure that nothing reports. -/
  escaped : Option Raised

/-- What a command works with. -/
structure Tools (γ : Type) where
  git : γ
  console : Console

/-- What the runs in one process share. -/
structure Machine (γ : Type) extends Tools γ where
  surroundings : Surroundings
  journal : Log.Journal
  /-- The file that settings are being read from, if one was chosen. -/
  chosen : Option Path

/-- A run that shows outputs and does nothing with git. -/
def idle (exit : ExitCode) (outputs : List Output) : Outcome := ⟨exit, outputs, [], none⟩

/-- A run that shows outputs and ends with a failure that nothing reports. -/
def escaping (outputs : List Output) (r : Raised) : Outcome := ⟨.failure, outputs, [], some r⟩

/-- A message to the user, who sees it without control sequences. -/
def message (s : Log.Stream) (text : String) : Output := .text s (withoutColours text)

/-- What the journal writes of an event. -/
def logged (j : Log.Journal) (e : Log.Event) : List Output :=
  match j.write e with
  | .ok (some l) => [.log l]
  | _ => []

/-! ### Publishing -/

/-- The event about a failure that nothing expects. -/
def unexpectedEvent : Log.Event := .make "ref_publisher.cli.common" .error "unexpected_error" []

/-- How a command ends after a failure. -/
def reported (j : Log.Journal) (r : Raised) : ExitCode × List Output :=
  let report := Report.ofFailure r.failure
  (report.exit,
    (if report.unexpected then logged j unexpectedEvent else []) ++ [message .err report.text])

/-- Opens the repository, publishes a ref, and gives the repository back. -/
def publishing {γ : Type} (p : Git.Program γ) (config : Config) (kind : Ref.Kind) (name : String)
    (git : γ) : Except Raised Publish.Outcome × Publish.Session (Git.Repository γ) :=
  let handle := Git.Repository.handle p
  let work : Publish.Work (Git.Repository γ) Publish.Outcome := do
    Publish.Publisher.create handle config
    Publish.Publisher.closing handle (Publish.Publisher.publish handle config kind name)
  work (.start (.unopened git Git.Repository.usualTimeout))

/-- The fields that are bound while a ref is published. -/
def boundFields (kind : Ref.Kind) (name : String) : Log.Fields :=
  [("command", .text kind.word), ("ref", .text name)]

/-- A remedy that is named where standard output does not take a line. -/
def encodingHint : String :=
  "\n*** You may need to add PYTHONIOENCODING=utf-8 to your environment ***"

/-- How a command ends once it has published a ref and printed the line about that. -/
def succeeded (j : Log.Journal) :
    Except Text.Utf8.Unencodable String → ExitCode × List Output
  | .ok text => (.success, [.text .out text])
  | .error u => reported j (.plain (.fault .encoding (u.message ++ encodingHint)))

/-- How a command ends after the attempt to publish a ref: it prints the line about the outcome, or
it reports the failure. -/
def concluded (j : Log.Journal) (console : Console) (remote : String) :
    Except Raised Publish.Outcome → (ExitCode × List Output) × Console
  | .ok o =>
    let (written, console) := console.print (o.line remote)
    (succeeded j written, console)
  | .error r => (reported j r, console)

/-- Publishes a ref with a configuration and tells of it. -/
def publishAndTell {γ : Type} (p : Git.Program γ) (j : Log.Journal) (config : Config)
    (kind : Ref.Kind) (name : String) (t : Tools γ) : Outcome × Tools γ :=
  let (result, session) := publishing p config kind name t.git
  let told := session.events.flatMap (logged (j.bind (boundFields kind name)))
  let ((exit, last), console) := concluded j.unbind t.console config.remote result
  (⟨exit, told ++ last, session.state.actions, none⟩, ⟨session.state.git, console⟩)

def runCommand {γ : Type} (p : Git.Program γ) (j : Log.Journal) (settings : Settings)
    (kind : Ref.Kind) (r : PublishRequest) (t : Tools γ) : Outcome × Tools γ :=
  let refused := fun e : Raised =>
    let (exit, outputs) := reported j e
    (idle exit outputs, t)
  match settings.configFor r.overrides with
  | .error e => refused e
  | .ok config =>
    match Ref.check kind config.tagPrefix r.name with
    | .error e => refused e
    | .ok _ => publishAndTell p j config kind r.name t

/-! ### The tool -/

/-- The least rank of events that are shown: quiet counts more than verbose, and verbose more than
the settings. -/
def threshold (preface : Preface) (settings : Settings) : Nat :=
  if preface.quiet then Log.Level.error.number
  else
    match preface.verbose with
    | 0 => settings.verbosity.level.number
    | 1 => Log.Level.info.number
    | _ => Log.Level.debug.number

/-- What is told of events, up to the first that standard output does not take. -/
def tell (j : Log.Journal) : List Log.Event → List Output × Except Raised Unit
  | [] => ([], .ok ())
  | e :: rest =>
    let outputs := logged j e
    match outputs.findSome? Output.refusal? with
    | some u => ([], .error (.plain (Environment.encodingFailure u)))
    | none =>
      let more := tell j rest
      (outputs ++ more.1, more.2)

/-- How a run ends without settings. -/
def withoutSettings (told : List Output) (r : Raised) : Outcome :=
  match r.failure with
  | .config f =>
    if f.value.isWritable then idle .failure (told ++ [message .err (configText f)])
    else escaping told Failure.unwritable
  | _ => escaping told r

/-- How a run ends whose words ask for nothing. -/
def withoutRequest (program : String) (c : Command) (e : UsageError) : Outcome :=
  let refusal := match e with
    | .unfitPath value => Environment.nameRefusal? value
    | _ => none
  match refusal with
  | some f => escaping [] f
  | none => idle .usage [message .err (e.report program c)]

/-- Runs a command with its words on settings. -/
def runWords {γ : Type} (p : Git.Program γ) (program : String) (files : Files) (j : Log.Journal)
    (settings : Settings) (kind : Ref.Kind) (words : List String) (t : Tools γ) :
    Outcome × Tools γ :=
  match CommandRequest.ofWords files kind words with
  | .error e => (withoutRequest program (.publish kind) e, t)
  | .ok (.page page) => (idle .success [message .out (page.text program)], t)
  | .ok (.publish r) => runCommand p j settings kind r t

/-- Reads the settings and runs a command. The file chosen for the settings is forgotten as soon as
they are read. -/
def runKind {γ : Type} (p : Git.Program γ) (program : String) (preface : Preface) (kind : Ref.Kind)
    (words : List String) (m : Machine γ) : Outcome × Machine γ :=
  let reading := { m with chosen := preface.config }
  let loaded := Settings.load m.surroundings reading.chosen
  let (told, heard) := tell m.journal loaded.1
  let m := { reading with chosen := none }
  match heard.bind fun _ => loaded.2 with
  | .error r => (withoutSettings told r, m)
  | .ok settings =>
    let w := m.surroundings
    let journal := m.journal.setAt w.environment false (threshold preface settings)
    let (o, tools) := runWords p program w.files journal settings kind words m.toTools
    ({ o with outputs := told ++ o.outputs },
      { m with toTools := tools, journal := journal.unbind })

/-- A run with the words of a command line; `program` is the name by which it was called. -/
def run {γ : Type} (p : Git.Program γ) (program : String) (words : List String) (m : Machine γ) :
    Outcome × Machine γ :=
  if words.isEmpty then (idle .usage [message .err (Command.help program .tool)], m)
  else
    match Request.ofWords words with
    | .error e => (withoutRequest program .tool e, m)
    | .ok (.page page) => (idle .success [message .out (page.text program)], m)
    | .ok (.command preface kind rest) => runKind p program preface kind rest m

/-- Without words there is nothing to run. -/
theorem run_nil {γ : Type} (p : Git.Program γ) (program : String) (m : Machine γ) :
    run p program [] m = (idle .usage [message .err (Command.help program .tool)], m) :=
  rfl

/-! ### Processes -/

/-- A process before its first run. The variables of the file with variables are set now, and stay
set for all its runs. -/
def Machine.start {γ : Type} (surroundings : Surroundings) (git : γ) :
    Except Failure (Machine γ) := do
  let environment ←
    Config.VariableFile.extend surroundings.files surroundings.environment
  return {
    git, console := .blank, journal := .fresh, chosen := none
    surroundings := { surroundings with environment } }

/-- Runs one after the other. -/
def runs {γ : Type} (p : Git.Program γ) (program : String) :
    List (List String) → Machine γ → List Outcome × Machine γ
  | [], m => ([], m)
  | words :: rest, m =>
    let (o, m) := run p program words m
    let (os, m) := runs p program rest m
    (o :: os, m)

/-- A process with one run. -/
def call {γ : Type} (p : Git.Program γ) (program : String) (words : List String)
    (surroundings : Surroundings) (git : γ) : Outcome × γ :=
  match Machine.start surroundings git with
  | .error f => (escaping [] f, git)
  | .ok m =>
    let (o, m) := run p program words m
    (o, m.git)

/-- How a process starts whose file with variables can be read. -/
theorem Machine.start_of_extend {γ : Type} {surroundings : Surroundings} {env : Environment}
    (extended : Config.VariableFile.extend surroundings.files surroundings.environment = .ok env)
    (git : γ) :
    Machine.start surroundings git = .ok {
      git, console := .blank, journal := .fresh, chosen := none
      surroundings := ⟨surroundings.files, env⟩ } := by
  rw [Machine.start, extended]
  rfl

end ReleaseRefs.Cli
