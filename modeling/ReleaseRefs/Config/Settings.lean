import ReleaseRefs.Config.Environment
import ReleaseRefs.Config.File

/-!
# `ReleaseRefs.Config.Settings`: the layers of settings put together

Variables come before the project's file, that before the user's file, and that before what holds
otherwise.

- `Settings.load` reads all layers and checks what they hold.
- `Settings.configFor` puts what the command line says over the settings; `configFor_nil`: if it
  says nothing, the options stay as they are.
-/

set_option autoImplicit false

namespace ReleaseRefs

/-- How much a run tells about itself. -/
inductive Verbosity where
  | error
  | warning
  | info
  | debug
  deriving DecidableEq, Repr

namespace Verbosity

def word : Verbosity → String
  | .error => "error"
  | .warning => "warning"
  | .info => "info"
  | .debug => "debug"

def ofWord? : String → Option Verbosity
  | "error" => some .error
  | "warning" => some .warning
  | "info" => some .info
  | "debug" => some .debug
  | _ => none

/-- The least level of events that are told. -/
def level : Verbosity → Log.Level
  | .error => .error
  | .warning => .warning
  | .info => .info
  | .debug => .debug

/-- Every verbosity is read from its word. -/
theorem ofWord?_word (v : Verbosity) : ofWord? v.word = some v := by
  cases v <;> rfl

end Verbosity

/-- The settings of the tool. -/
structure Settings where
  config : Config
  verbosity : Verbosity
  deriving DecidableEq, Repr

/-- What surrounds a run: the files that it can see and its variables. -/
structure Surroundings where
  files : Files
  environment : Environment

namespace Settings

/-- The name of the project's file. -/
def projectFile : Path := ⟨"ref-publisher.yaml"⟩

/-- The place of the user's file in the home directory. -/
def userFile : Path := ⟨".config/ref-publisher/config.yaml"⟩

/-- The user's file, in the user's home directory. -/
def userPath (home : Path) : Path := home.join userFile

/-- The project's file: the chosen one, or the usual one in the working directory. -/
def projectPath (fs : Files) (chosen : Option Path) : Path :=
  chosen.getD (fs.workingDirectory.join projectFile)

/-- The failure that stands for the values that options do not accept: it tells of the first. -/
def invalidFailure (errors : List Config.FieldError) : Raised :=
  match errors with
  | [] => .plain (.invalid [])
  | e :: _ =>
    .fromCause
      (.config ⟨"Invalid configuration: " ++ e.complaint.message,
        some (".".intercalate e.location), e.input⟩)
      (.invalid errors)

def readVerbosity (es : Entries) : Except Config.FieldError Verbosity :=
  match es.getText? "verbosity" with
  | none => .ok .warning
  | some v =>
    match v with
    | .text s =>
      match Verbosity.ofWord? s with
      | some w => .ok w
      | none =>
        .error ⟨["verbosity"], if Text.isWhole s then .verbosityWord else .textEncoding, v⟩
    | _ => .error ⟨["verbosity"], .verbosityWord, v⟩

/-- Reads the options of a run. -/
def readConfig (workingDirectory : Path) (es : Entries) :
    Except (List Config.FieldError) Config :=
  match es.getText? "publisher" with
  | none => .ok (Config.default workingDirectory)
  | some v =>
    match Config.ofValue workingDirectory v with
    | .ok c => .ok c
    | .error errors =>
      .error (errors.map fun e => { e with location := "publisher" :: e.location })

/-- Reads the settings from the entries of all layers. -/
def ofEntries (workingDirectory : Path) (es : Entries) :
    Except (List Config.FieldError) Settings :=
  match readConfig workingDirectory es, readVerbosity es with
  | .ok c, .ok v => .ok ⟨c, v⟩
  | .ok _, .error e => .error [e]
  | .error es, v => .error (es ++ Config.complaint v)

/-- Checks the entries of all layers. -/
def check (workingDirectory : Path) (es : Entries) : Except Raised Settings :=
  if !Config.Layer.hasTextKeys es then .error (.plain (.fault .type "keywords must be strings"))
  else
    match ofEntries workingDirectory es with
    | .ok s => .ok s
    | .error errors => .error (invalidFailure errors)

/-- The entries of all layers, the higher ones over the lower ones. -/
def merge (user project environment : Entries) : Entries :=
  Config.Layer.overlay user (Config.Layer.overlay project environment)

/-- The event about a project without a file. -/
def missingEvent (p : Path) : Log.Event :=
  .make Config.File.source .info "no_project_config" [("path", .text p.text)]

/-- The entries of the user's file. -/
def readUserLayer (w : Surroundings) : List Log.Event × Except Raised Entries :=
  match w.environment.home with
  | .error f => ([], .error f)
  | .ok home => Config.File.readLayer w.files (userPath home)

/-- Reads and checks all layers with a project file. -/
def loadFrom (w : Surroundings) (project : Path) : List Log.Event × Except Raised Settings :=
  match Config.File.readLayer w.files project with
  | (told, .error e) => (told, .error e)
  | (told, .ok p) =>
    match readUserLayer w with
    | (more, .error e) => (told ++ more, .error e)
    | (more, .ok u) =>
      (told ++ more,
        match w.environment.layer with
        | .error e => .error e
        | .ok v => check w.files.workingDirectory (merge u p v))

/-- Reads and checks all layers, with a project file that was chosen or the usual one. -/
def load (w : Surroundings) (chosen : Option Path) : List Log.Event × Except Raised Settings :=
  let project := projectPath w.files chosen
  let told :=
    if w.files.contains project || w.files.isTooLong project then [] else [missingEvent project]
  let r := loadFrom w project
  (told ++ r.1, r.2)

/-- The name under which the settings themselves are known where something is said over them. -/
def ownName : String := "self"

/-- What was said for one run. What is null was not said. -/
def saidEntries (overrides : List (String × Value)) : Entries :=
  overrides.filterMap fun o => match o.2 with
    | .null => none
    | v => some (.text o.1, v)

/-- The options of one run: the settings with what was said for this run over them. -/
def configFor (s : Settings) (overrides : List (String × Value)) : Except Raised Config :=
  if overrides.any fun o => o.1 == ownName then
    .error (.plain (.fault .type
      "PublisherSettings.publisher_config() got multiple values for argument 'self'"))
  else
    match Config.ofEntries s.config (s.config.dump.insertAll (saidEntries overrides)) with
    | .ok c => .ok c
    | .error errors => .error (invalidFailure errors)

/-- The options of settings that were read are sound. -/
theorem ofEntries_sound {workingDirectory : Path} {es : Entries} {s : Settings}
    (h : ofEntries workingDirectory es = .ok s) : s.config.Sound := by
  unfold ofEntries at h
  split at h
  · rename_i c v read _
    obtain rfl := Except.ok.inj h
    unfold readConfig at read
    split at read
    · obtain rfl := Except.ok.inj read
      exact Config.default_sound workingDirectory
    · split at read
      · next accepted =>
        obtain rfl := Except.ok.inj read
        exact Config.ofValue_sound accepted
      · cases read
  · cases h
  · cases h

/-- The options of settings that were checked are sound. -/
theorem check_sound {workingDirectory : Path} {es : Entries} {s : Settings}
    (h : check workingDirectory es = .ok s) : s.config.Sound := by
  unfold check at h
  split at h
  · cases h
  · split at h
    · next accepted =>
      obtain rfl := Except.ok.inj h
      exact ofEntries_sound accepted
    · cases h

/-- The options of settings that were loaded are sound. -/
theorem load_sound {w : Surroundings} {chosen : Option Path} {s : Settings}
    (h : (load w chosen).2 = .ok s) : s.config.Sound := by
  have loaded : (loadFrom w (projectPath w.files chosen)).2 = .ok s := h
  unfold loadFrom at loaded
  split at loaded
  · cases loaded
  · split at loaded
    · cases loaded
    · cases layered : w.environment.layer with
      | error e =>
        simp only [layered] at loaded
        cases loaded
      | ok v =>
        simp only [layered] at loaded
        exact check_sound loaded

/-- The options of one run are sound. -/
theorem configFor_sound {s : Settings} (sound : s.config.Sound)
    {overrides : List (String × Value)} {c : Config} (h : s.configFor overrides = .ok c) :
    c.Sound := by
  unfold configFor at h
  split at h
  · cases h
  · split at h
    · next accepted =>
      obtain rfl := Except.ok.inj h
      exact Config.ofEntries_sound sound accepted
    · cases h

/-- Sound options stay as they are if nothing is said for the run. -/
theorem configFor_nil (s : Settings) (sound : s.config.Sound) : s.configFor [] = .ok s.config := by
  have same := Config.ofEntries_dump s.config sound
  simp [configFor, saidEntries, Entries.insertAll, same]

end Settings

end ReleaseRefs
