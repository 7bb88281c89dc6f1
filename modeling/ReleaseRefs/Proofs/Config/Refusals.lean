import ReleaseRefs.Config.Settings
import ReleaseRefs.Proofs.Yaml.Building

/-!
# `ReleaseRefs.Proofs.Config.Refusals`: why settings are refused

Loading settings may fail in many places: a file cannot be looked up or read, its text is no
document or has a part that stands for nothing, a variable holds no JSON, or an option does not
accept its value. `Refusal` lists them all, each with the failure that it raises.

- `loadFrom_loaded`: how loading goes from layer to layer.
- `load_refusal`: settings that are not loaded are refused for one of these reasons.
- `Refusal.config_or_stray`: which of them are failures of the configuration. The others have one of
  the kinds that any part of a program may have; `strayKinds` lists them.
-/

set_option autoImplicit false

namespace ReleaseRefs.Proofs.Config

open ReleaseRefs.Config

/-! ### Reasons -/

/-- Why nothing was read from a file, and the failure. -/
inductive FileRefusal (fs : Files) (p : Path) : Raised → Prop
  /-- The system does not look up a path of this length. -/
  | tooLong (long : fs.isTooLong p = true) : FileRefusal fs p (.plain (File.tooLong p))
  /-- There is a directory in the file's place. -/
  | directory (found : fs.find? p = some .directory) :
    FileRefusal fs p
      (.plain (.fault .directory ("[Errno 21] Is a directory: " ++ Text.quoted p.text)))
  /-- The octets of the file are no text. -/
  | undecodable {octets : List UInt8} {e : Text.Utf8.Misfit}
    (found : fs.find? p = some (.file octets)) (broken : Text.Utf8.decode octets = .error e) :
    FileRefusal fs p (.plain (.fault .decoding (e.streamMessage octets)))
  /-- The text is no document. -/
  | flaw {s m : String} (text : File.readText fs p = .ok s)
    (unread : Yaml.read s = .error (.fault .yaml m)) :
    FileRefusal fs p (.fromCause (.config ⟨"Invalid YAML in " ++ p.text ++ ": " ++ m, none, .null⟩)
      (.fault .yaml m))
  /-- A part of the document stands for nothing, such as a date that does not exist. -/
  | part {s m : String} {kind : FaultKind} (text : File.readText fs p = .ok s)
    (unread : Yaml.read s = .error (.fault kind m)) (reading : Yaml.isReadingKind kind = true)
    (other : kind ≠ .yaml) : FileRefusal fs p (.plain (.fault kind m))
  /-- The document is no mapping. -/
  | noMapping {s : String} {v : Value} (text : File.readText fs p = .ok s)
    (read : Yaml.read s = .ok v) (something : v ≠ .null) (flat : Yaml.IsFlat v) :
    FileRefusal fs p
      (.plain (.config ⟨"Config file " ++ p.text ++ " must contain a mapping", none, v⟩))

/-- The layers with a project file, all of which were read. -/
structure Layers (w : Surroundings) (project : Path) (lower user upper : Entries) : Prop where
  project : (File.readLayer w.files project).2 = .ok lower
  user : (Settings.readUserLayer w).2 = .ok user
  environment : w.environment.layer = .ok upper

/-- What comes of loading settings: the first layer that is not read ends it, and layers that are
all read are checked together. -/
inductive Loaded (w : Surroundings) (project : Path) :
    List Log.Event × Except Raised Settings → Prop
  | project {told : List Log.Event} {r : Raised}
    (failed : File.readLayer w.files project = (told, .error r)) :
    Loaded w project (told, .error r)
  | user {told more : List Log.Event} {lower : Entries} {r : Raised}
    (below : File.readLayer w.files project = (told, .ok lower))
    (failed : Settings.readUserLayer w = (more, .error r)) :
    Loaded w project (told ++ more, .error r)
  | environment {told more : List Log.Event} {lower user : Entries} {r : Raised}
    (below : File.readLayer w.files project = (told, .ok lower))
    (above : Settings.readUserLayer w = (more, .ok user))
    (failed : w.environment.layer = .error r) : Loaded w project (told ++ more, .error r)
  | checked {told more : List Log.Event} {lower user upper : Entries}
    (below : File.readLayer w.files project = (told, .ok lower))
    (above : Settings.readUserLayer w = (more, .ok user))
    (layered : w.environment.layer = .ok upper) :
    Loaded w project
      (told ++ more, Settings.check w.files.workingDirectory (Settings.merge user lower upper))

/-- Loading settings does what `Loaded` says. -/
theorem loadFrom_loaded (w : Surroundings) (project : Path) :
    Loaded w project (Settings.loadFrom w project) := by
  unfold Settings.loadFrom
  split
  · next told r failed => exact .project failed
  · next told lower below =>
    split
    · next more r failed => exact .user below failed
    · next more user above =>
      cases layered : w.environment.layer with
      | error r => exact .environment below above layered
      | ok upper => exact .checked below above layered

/-- Why settings are refused, and the failure. -/
inductive Refusal (w : Surroundings) (project : Path) : Raised → Prop
  | projectFile {r : Raised} (refused : FileRefusal w.files project r) : Refusal w project r
  /-- The home directory is named by its user. -/
  | home {f : Failure} (unknown : w.environment.home = .error f) : Refusal w project f
  | userFile {r : Raised} {home : Path} (known : w.environment.home = .ok home)
    (refused : FileRefusal w.files (Settings.userPath home) r) : Refusal w project r
  /-- The variable with options holds no JSON. -/
  | object {s : String} {e : Json.ReadError}
    (set : (Environment.lowered w.environment).get? Environment.optionsName = some s)
    (unread : Json.read s = .error e) : Refusal w project (Environment.jsonFailure e)
  /-- A key of a file is no text. -/
  | keys {lower user upper : Entries} (layers : Layers w project lower user upper)
    (textless : Layer.hasTextKeys (Settings.merge user lower upper) = false) :
    Refusal w project (.plain (.fault .type "keywords must be strings"))
  /-- Some values are not accepted; the failure tells of the first. -/
  | values {lower user upper : Entries} (layers : Layers w project lower user upper)
    {e : FieldError} {es : List FieldError}
    (unfit : Settings.ofEntries w.files.workingDirectory (Settings.merge user lower upper) =
      .error (e :: es)) : Refusal w project (Settings.invalidFailure (e :: es))

/-! ### Files -/

/-- A file that is there and cannot be read as text. -/
theorem readText_refusal {fs : Files} {p : Path} {f : Failure} (found : fs.contains p = true)
    (unread : File.readText fs p = .error f) : FileRefusal fs p (.plain f) := by
  unfold File.readText at unread
  split at unread
  · next absent => simp [Files.contains, absent] at found
  · next directory =>
    cases unread
    exact .directory directory
  · next octets file =>
    split at unread
    · cases unread
    · next broken =>
      cases unread
      exact .undecodable file broken

/-- A text that cannot be read as a document. -/
theorem documentFailure_refusal {fs : Files} {p : Path} {s : String} {f : Failure}
    (text : File.readText fs p = .ok s) (unread : Yaml.read s = .error f) :
    FileRefusal fs p (File.documentFailure p f) := by
  have reading := (Yaml.read_keyed s).error unread
  cases f with
  | fault kind m =>
    -- Only a flaw of the document is turned into a failure of the configuration.
    cases kind with
    | yaml => exact .flaw text unread
    | _ => exact .part text unread reading nofun
  | _ => cases reading

theorem readLayer_refusal {fs : Files} {p : Path} {r : Raised}
    (failed : (File.readLayer fs p).2 = .error r) : FileRefusal fs p r := by
  unfold File.readLayer at failed
  split at failed
  · next long =>
    cases failed
    exact .tooLong long
  · split at failed
    · next found =>
      split at failed
      · next f unread =>
        cases failed
        exact readText_refusal found unread
      · next s text =>
        split at failed
        · next f unread =>
          cases failed
          exact documentFailure_refusal text unread
        · next v read =>
          unfold File.entriesOf at failed
          split at failed
          · cases failed
          · cases failed
          · next something flat =>
            cases failed
            exact .noMapping text read something flat
    · cases failed

theorem readUserLayer_refusal {w : Surroundings} {project : Path} {r : Raised}
    (failed : (Settings.readUserLayer w).2 = .error r) : Refusal w project r := by
  unfold Settings.readUserLayer at failed
  split at failed
  · next unknown =>
    cases failed
    exact .home unknown
  · next home known => exact .userFile known (readLayer_refusal failed)

/-! ### Variables -/

theorem layer_refusal {w : Surroundings} {project : Path} {r : Raised}
    (failed : w.environment.layer = .error r) : Refusal w project r := by
  have options : Environment.options (Environment.lowered w.environment) = .error r := by
    unfold Environment.layer at failed
    cases read : Environment.options (Environment.lowered w.environment) with
    | error e =>
      simp only [read] at failed
      cases failed
      rfl
    | ok o =>
      simp only [read] at failed
      cases failed
  unfold Environment.options at options
  simp only at options
  split at options
  · cases options
  · next s set =>
    split at options
    · next e unread =>
      cases options
      exact .object set unread
    · cases options
    · cases options
    · cases options

/-! ### Values -/

theorem complaint_eq_nil {α : Type} {x : Except FieldError α} (none : Config.complaint x = []) :
    ∃ a, x = .ok a := by
  cases x with
  | ok a => exact ⟨a, rfl⟩
  | error e => cases none

/-- Options that are not accepted are told. -/
theorem ofEntries_error_ne_nil {base : Config} {es : Entries} {errors : List FieldError}
    (failed : Config.ofEntries base es = .error errors) : errors ≠ [] := by
  rintro rfl
  unfold Config.ofEntries at failed
  simp only at failed
  split at failed
  · cases failed
  · next notAll =>
    have nothing := Except.error.inj failed
    simp only [List.append_eq_nil_iff] at nothing
    obtain ⟨⟨⟨⟨⟨a, b⟩, c⟩, d⟩, e⟩, f⟩ := nothing
    obtain ⟨_, a⟩ := complaint_eq_nil a
    obtain ⟨_, b⟩ := complaint_eq_nil b
    obtain ⟨_, c⟩ := complaint_eq_nil c
    obtain ⟨_, d⟩ := complaint_eq_nil d
    obtain ⟨_, e⟩ := complaint_eq_nil e
    obtain ⟨_, f⟩ := complaint_eq_nil f
    exact notAll _ _ _ _ _ _ a b c d e f

theorem settings_error_ne_nil {workingDirectory : Path} {es : Entries} {errors : List FieldError}
    (failed : Settings.ofEntries workingDirectory es = .error errors) : errors ≠ [] := by
  unfold Settings.ofEntries at failed
  split at failed
  · cases failed
  · cases failed
    exact List.cons_ne_nil _ _
  · next unread =>
    cases failed
    unfold Settings.readConfig at unread
    split at unread
    · cases unread
    · split at unread
      · cases unread
      · next unaccepted =>
        cases unread
        unfold Config.ofValue at unaccepted
        split at unaccepted
        · have some := ofEntries_error_ne_nil unaccepted
          simp [some]
        · cases unaccepted
          simp

theorem check_refusal {w : Surroundings} {project : Path} {lower user upper : Entries}
    (layers : Layers w project lower user upper) {r : Raised}
    (failed : Settings.check w.files.workingDirectory (Settings.merge user lower upper) =
      .error r) : Refusal w project r := by
  unfold Settings.check at failed
  split at failed
  · next textless =>
    cases failed
    exact .keys layers (by simpa using textless)
  · split at failed
    · cases failed
    · next errors unfit =>
      cases failed
      cases errors with
      | nil => exact absurd rfl (settings_error_ne_nil unfit)
      | cons e es => exact .values layers unfit

/-! ### Settings -/

/-- Settings that are not loaded are refused for one of the reasons. -/
theorem load_refusal {w : Surroundings} {chosen : Option Path} {r : Raised}
    (failed : (Settings.load w chosen).2 = .error r) :
    Refusal w (Settings.projectPath w.files chosen) r := by
  have loaded := loadFrom_loaded w (Settings.projectPath w.files chosen)
  have last : (Settings.loadFrom w (Settings.projectPath w.files chosen)).2 = .error r := failed
  generalize Settings.loadFrom w (Settings.projectPath w.files chosen) = result at loaded last
  cases loaded with
  | project stopped =>
    cases last
    exact .projectFile (readLayer_refusal (by rw [stopped]))
  | user _ stopped =>
    cases last
    exact readUserLayer_refusal (by rw [stopped])
  | environment _ _ stopped =>
    cases last
    exact layer_refusal stopped
  | checked below above layered =>
    exact check_refusal ⟨by rw [below], by rw [above], layered⟩ last

/-! ### Kinds of failure -/

/-- The failure is one of the configuration. -/
def IsConfig (r : Raised) : Prop := ∃ f, r.failure = .config f

/-- The kinds of failure with which settings are refused that are none of the configuration. -/
def strayKinds : List FaultKind :=
  [.os, .directory, .decoding, .recursion, .value, .type, .key, .index, .attribute, .overflow,
    .runtime, .settings]

/-- The failure has one of the kinds that are none of the configuration. -/
def IsStray (r : Raised) : Prop := ∃ kind ∈ strayKinds, ∃ m, r.failure = .fault kind m

theorem FileRefusal.config_or_stray {fs : Files} {p : Path} {r : Raised}
    (refused : FileRefusal fs p r) : IsConfig r ∨ IsStray r := by
  cases refused with
  | tooLong | directory | undecodable => exact .inr ⟨_, by decide, _, rfl⟩
  | flaw | noMapping => exact .inl ⟨_, rfl⟩
  | @part s m kind text unread reading other =>
    refine .inr ⟨kind, ?_, m, rfl⟩
    cases kind <;> first | exact absurd rfl other | decide | cases reading

/-- A failure to load settings is one of the configuration or has one of the stray kinds. -/
theorem Refusal.config_or_stray {w : Surroundings} {project : Path} {r : Raised}
    (refused : Refusal w project r) : IsConfig r ∨ IsStray r := by
  cases refused with
  | projectFile refused => exact refused.config_or_stray
  | home unknown =>
    unfold Environment.home at unknown
    simp only at unknown
    split at unknown
    · cases unknown
      exact .inr ⟨.runtime, by decide, _, rfl⟩
    · cases unknown
  | userFile _ refused => exact refused.config_or_stray
  | @object s e set unread =>
    cases e with
    | malformed | tooLong => exact .inr ⟨.settings, by decide, _, rfl⟩
    | tooDeep => exact .inr ⟨.recursion, by decide, _, rfl⟩
  | keys => exact .inr ⟨.type, by decide, _, rfl⟩
  | values => exact .inl ⟨_, rfl⟩

/-- No failure is of both sorts. -/
theorem IsStray.not_config {r : Raised} (stray : IsStray r) : ¬ IsConfig r := by
  rintro ⟨f, config⟩
  obtain ⟨kind, -, m, fault⟩ := stray
  rw [config] at fault
  cases fault

end ReleaseRefs.Proofs.Config
