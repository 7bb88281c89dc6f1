import ReleaseRefs.Cli.Request
import ReleaseRefs.Log.Journal
import ReleaseRefs.Proofs.Config.Precedence

/-!
# `ReleaseRefs.Proofs.Config.LogSettings`: options do not depend on the settings of the log

Some variables and one key of the files are about the log only. Surroundings that differ in nothing
else give the same options, as long as the verbosity is one that there is.

- `SameOptions` compares the entries of a layer without regard to the verbosity (`check_config`).
- `AlikeVariables` compares variables without regard to those of the log, and `AlikeFiles` compares
  files without regard to what they say of the verbosity.
- `load_alike`: settings that are loaded from surroundings that are alike have the same options.
-/

set_option autoImplicit false

namespace ReleaseRefs.Proofs.Config

open ReleaseRefs.Config

/-! ### Entries -/

/-- Two layers have the same options, whatever they say of the verbosity. -/
structure SameOptions (es fs : Entries) : Prop where
  options : fs.getText? "publisher" = es.getText? "publisher"
  textKeys : Layer.hasTextKeys fs = Layer.hasTextKeys es

theorem hasTextKeys_eq (es : Entries) :
    Layer.hasTextKeys es = es.all fun e => (keyText? e.1).isSome := by
  unfold Layer.hasTextKeys
  congr
  funext e
  cases e.1 <;> rfl

/-- Of two values that are the same key, both are texts or neither is. -/
theorem keyText?_isSome_of_sameKey {k l : Value} (same : k.sameKey l = true) :
    (keyText? k).isSome = (keyText? l).isSome := by
  rw [Bool.eq_iff_iff, Option.isSome_iff_exists, Option.isSome_iff_exists]
  simp only [keyText?_eq_some_iff]
  constructor
  · rintro ⟨s, rfl⟩
    exact ⟨s, text_sameKey_iff.1 same⟩
  · rintro ⟨s, rfl⟩
    exact ⟨s, sameKey_text_iff.1 same⟩

theorem hasTextKeys_insert (es : Entries) (k v : Value) :
    Layer.hasTextKeys (es.insert k v) = (Layer.hasTextKeys es && (keyText? k).isSome) := by
  simp only [hasTextKeys_eq]
  induction es with
  | nil => simp [Entries.insert]
  | cons e r ih =>
    rw [Entries.insert]
    split
    · next same =>
      rw [List.all_cons, List.all_cons, keyText?_isSome_of_sameKey same]
      cases (keyText? k).isSome <;> simp
    · rw [List.all_cons, List.all_cons, ih, Bool.and_assoc]

theorem hasTextKeys_overlay (lower upper : Entries) :
    Layer.hasTextKeys (Layer.overlay lower upper) =
      (Layer.hasTextKeys lower && Layer.hasTextKeys upper) := by
  induction upper generalizing lower with
  | nil => simp [Layer.overlay, Layer.hasTextKeys]
  | cons e r ih =>
    rw [Layer.overlay, ih, hasTextKeys_insert, hasTextKeys_eq (e :: r), List.all_cons,
      ← hasTextKeys_eq, Bool.and_assoc]

/-- Layers with the same options have the same options once they are put over each other. -/
theorem SameOptions.overlay {lower lower' upper upper' : Entries} (distinct : Distinct upper)
    (distinct' : Distinct upper') (below : SameOptions lower lower')
    (above : SameOptions upper upper') :
    SameOptions (Layer.overlay lower upper) (Layer.overlay lower' upper') where
  options := by
    rw [getText?_overlay distinct, getText?_overlay distinct', above.options, below.options]
  textKeys := by
    rw [hasTextKeys_overlay, hasTextKeys_overlay, above.textKeys, below.textKeys]

/-- Entries with the same options are checked with the same result for the options, if each of them
has a verbosity that there is. -/
theorem check_config {es fs : Entries} (same : SameOptions es fs) (workingDirectory : Path)
    {v w : Verbosity} (verbosity : Settings.readVerbosity es = .ok v)
    (verbosity' : Settings.readVerbosity fs = .ok w) :
    (Settings.check workingDirectory fs).map Settings.config =
      (Settings.check workingDirectory es).map Settings.config := by
  have config : Settings.readConfig workingDirectory fs = Settings.readConfig workingDirectory es :=
    by rw [Settings.readConfig, Settings.readConfig, same.options]
  rw [Settings.check, Settings.check, same.textKeys, Settings.ofEntries, Settings.ofEntries, config,
    verbosity, verbosity']
  cases Layer.hasTextKeys es
  · rfl
  · cases Settings.readConfig workingDirectory es <;> rfl

/-! ### Variables -/

/-- The variables that are about the log, in lower case. -/
def logNames : List String :=
  [Environment.verbosityName, Text.lower Log.levelName, Text.lower Log.formatName]

/-- The variables that are not about the log. -/
def withoutLog (env : Environment) : Environment :=
  env.filter fun e => !logNames.contains (Text.lower e.1)

/-- Variables that are the same apart from those about the log. -/
def AlikeVariables (env env' : Environment) : Prop := withoutLog env' = withoutLog env

/-- A variable is set among those with some names exactly if its name is one of them. -/
theorem filter_set_names (keep : String → Bool) (env : Environment) (name value : String) :
    (env.set name value).filter (fun e => keep e.1) =
      if keep name then Environment.set (env.filter fun e => keep e.1) name value
      else env.filter fun e => keep e.1 := by
  induction env with
  | nil => cases h : keep name <;> simp [Environment.set, h]
  | cons e r ih =>
    rw [Environment.set]
    split
    · next same =>
      cases h : keep name <;> simp [Environment.set, same, h]
    · next differ =>
      rw [List.filter_cons, ih, List.filter_cons]
      cases h : keep name <;> cases h' : keep e.1 <;> simp [Environment.set, differ]

/-- The variables with some names in lower case are those of the variables that have such a name. -/
theorem lowered_filter (keep : String → Bool) (env : Environment) :
    (Environment.lowered env).filter (fun e => keep e.1) =
      Environment.lowered (env.filter fun e => keep (Text.lower e.1)) := by
  -- From the end, as the last value of a name counts.
  induction env using List.reverseRecOn with
  | nil => rfl
  | append_singleton env e ih =>
    have step : Environment.lowered (env ++ [e]) =
        (Environment.lowered env).set (Text.lower e.1) e.2 := by simp [Environment.lowered]
    rw [step, filter_set_names, ih, List.filter_append]
    cases h : keep (Text.lower e.1) <;> simp [Environment.lowered, h]

section Variables

variable {env env' : Environment}

/-- Variables that are alike are the same in lower case, apart from those about the log. -/
theorem AlikeVariables.lowered (alike : AlikeVariables env env') :
    (Environment.lowered env').filter (fun e => !logNames.contains e.1) =
      (Environment.lowered env).filter fun e => !logNames.contains e.1 := by
  have names := lowered_filter fun name => !logNames.contains name
  rw [names, names]
  exact congrArg Environment.lowered alike

/-- A variable that is not about the log is looked up among those that are not. -/
theorem get?_filter (keep : String → Bool) (vars : Environment) {name : String}
    (kept : keep name = true) :
    Environment.get? (vars.filter fun e => keep e.1) name = vars.get? name := by
  simp only [Environment.get?, List.find?_filter]
  congr 2
  funext e
  by_cases same : e.1 = name
  · simp [same, kept]
  · simp [same]

/-- No variable that is about the log is named for an option. -/
theorem noLogOption :
    ∀ name ∈ logNames, Ref.dropStart? (Environment.optionsName ++ "__") name = none := by
  decide

/-- Variables that are about the log hold no single option. -/
theorem singleOptions_filter (vars : Environment) :
    Environment.singleOptions (vars.filter fun e => !logNames.contains e.1) =
      Environment.singleOptions vars := by
  unfold Environment.singleOptions
  generalize ([] : Entries) = es
  induction vars generalizing es with
  | nil => rfl
  | cons e r ih =>
    rw [List.filter_cons, List.foldl_cons]
    by_cases log : logNames.contains e.1
    · have noOption : Ref.dropStart? (Environment.optionsName ++ "__") e.1 = none :=
        noLogOption _ (List.contains_iff_mem.1 log)
      simp only [log, noOption, Bool.not_true, Bool.false_eq_true, if_false]
      exact ih es
    · simp only [log, Bool.not_false, if_true, List.foldl_cons]
      exact ih _

/-- Variables that are alike hold the same options. -/
theorem AlikeVariables.options (alike : AlikeVariables env env') :
    Environment.options (Environment.lowered env') =
      Environment.options (Environment.lowered env) := by
  have onlyKept (vars : Environment) : Environment.options vars =
      Environment.options (vars.filter fun e => !logNames.contains e.1) := by
    rw [Environment.options, Environment.options, singleOptions_filter,
      get?_filter (fun name => !logNames.contains name) vars (by decide)]
  rw [onlyKept, alike.lowered, ← onlyKept]

/-- Variables that are alike name the same home directory. -/
theorem AlikeVariables.home (alike : AlikeVariables env env') :
    Environment.home env' = Environment.home env := by
  have onlyKept (vars : Environment) :
      vars.get? Environment.homeName = (withoutLog vars).get? Environment.homeName :=
    (get?_filter (fun name => !logNames.contains (Text.lower name)) vars (by decide)).symm
  rw [Environment.home, Environment.home, onlyKept env', alike, ← onlyKept]

/-- Two layers are refused for the same reason, or they have the same options. -/
inductive AlikeLayers : Except Raised Entries → Except Raised Entries → Prop where
  | refused (r : Raised) : AlikeLayers (.error r) (.error r)
  | read {es fs : Entries} (same : SameOptions es fs) : AlikeLayers (.ok es) (.ok fs)

/-- Variables that are alike are layers that are alike. -/
theorem AlikeVariables.layers (alike : AlikeVariables env env') :
    AlikeLayers env.layer env'.layer := by
  simp only [Environment.layer, alike.options]
  rcases Environment.options (Environment.lowered env) with r | o
  · exact .refused r
  · refine .read ?_
    cases o <;> cases (Environment.lowered env).get? Environment.verbosityName <;>
      cases (Environment.lowered env').get? Environment.verbosityName <;> exact ⟨rfl, rfl⟩

/-- In the layer of an environment no key stands twice. -/
theorem layer_distinct {es : Entries} (layered : env.layer = .ok es) : Distinct es := by
  simp only [Environment.layer] at layered
  cases read : Environment.options (Environment.lowered env) with
  | error r =>
    rw [read] at layered
    cases layered
  | ok o =>
    rw [read] at layered
    cases layered
    cases o <;> cases (Environment.lowered env).get? Environment.verbosityName <;>
      simp [Distinct, textKeys, keyText?]

end Variables

/-! ### Files -/

/-- A file, and no directory. -/
def isFile : FileEntry → Bool
  | .file _ => true
  | .directory => false

/-- The same files and directories stand in the same places, and as layers the files are alike. -/
structure AlikeFiles (fs gs : Files) : Prop where
  workingDirectory : gs.workingDirectory = fs.workingDirectory
  places : gs.entries.map (fun e => (e.1, isFile e.2)) = fs.entries.map fun e => (e.1, isFile e.2)
  layers : ∀ p, AlikeLayers (File.readLayer fs p).2 (File.readLayer gs p).2

/-- Files are like themselves. -/
theorem AlikeFiles.refl (fs : Files) : AlikeFiles fs fs where
  workingDirectory := rfl
  places := rfl
  layers p := by
    cases (File.readLayer fs p).2 with
    | error r => exact .refused r
    | ok es => exact .read ⟨rfl, rfl⟩

section Places

variable {fs gs : Files}

/-- In places that are the same stands a file or a directory, or nothing, in both. -/
theorem AlikeFiles.at? (alike : AlikeFiles fs gs) (parts : List (List Char)) :
    (gs.at? parts).map isFile = (fs.at? parts).map isFile := by
  have known : gs.workingDirectory :: gs.entries.map Prod.fst =
      fs.workingDirectory :: fs.entries.map Prod.fst := by
    have paths := congrArg (List.map Prod.fst) alike.places
    rw [List.map_map, List.map_map] at paths
    rw [alike.workingDirectory]
    exact congrArg (fs.workingDirectory :: ·) paths
  have found := congrArg (List.find? fun e => e.1 == Files.ofParts parts) alike.places
  rw [List.find?_map, List.find?_map] at found
  simp only [Function.comp_def] at found
  unfold Files.at?
  simp only [known]
  rcases here : fs.entries.find? (fun e => e.1 == Files.ofParts parts) with _ | e <;>
    rcases there : gs.entries.find? (fun e => e.1 == Files.ofParts parts) with _ | e' <;>
    rw [here, there] at found <;> simp only [here, there]
  · cases found
  · cases found
  · exact congrArg (Option.map Prod.snd) found

/-- A directory stands in the same places of both. -/
theorem AlikeFiles.directory_iff (alike : AlikeFiles fs gs) (parts : List (List Char)) :
    gs.at? parts = some .directory ↔ fs.at? parts = some .directory := by
  have kind (o : Option FileEntry) : o = some .directory ↔ o.map isFile = some false := by
    rcases o with _ | (_ | _) <;> simp [isFile]
  rw [kind, kind, alike.at?]

/-- A walk goes the same way in both. -/
theorem AlikeFiles.walk (alike : AlikeFiles fs gs) (place parts : List (List Char)) :
    gs.walk place parts = fs.walk place parts := by
  induction parts generalizing place with
  | nil => rfl
  | cons part r ih =>
    have step (hs : Files) : hs.walk place (part :: r) =
        if part = ['.', '.'] then
          if hs.at? place.reverse = some .directory then hs.walk (place.drop 1) r else none
        else hs.walk (part :: place) r := by
      rw [Files.walk]
      rcases hs.at? place.reverse with _ | (_ | _) <;> rfl
    rw [step, step, ih, ih]
    simp only [alike.directory_iff]

theorem AlikeFiles.find? (alike : AlikeFiles fs gs) (p : Path) :
    (gs.find? p).map isFile = (fs.find? p).map isFile := by
  rw [Files.find?, Files.find?, Files.partsFromRoot, alike.workingDirectory, alike.walk,
    ← Files.partsFromRoot]
  cases fs.walk [] (fs.partsFromRoot p) with
  | none => rfl
  | some parts => exact alike.at? parts

/-- Under a path as the user wrote it stands a file in both, or in neither. -/
theorem AlikeFiles.isPlainFile (alike : AlikeFiles fs gs) (written : String) :
    Cli.isPlainFile gs written = Cli.isPlainFile fs written := by
  have same := alike.find? (Path.ofText written)
  unfold Cli.isPlainFile
  generalize gs.find? (Path.ofText written) = o at same ⊢
  generalize fs.find? (Path.ofText written) = o' at same ⊢
  rcases o with _ | (_ | _) <;> rcases o' with _ | (_ | _) <;> cases same
  · rfl
  · simp only
    -- Which file it is does not matter, whether the path is written as one of a directory or not.
    cases written.isEmpty || _ <;> rfl
  · rfl

/-- A command reads its words the same way with both. -/
theorem AlikeFiles.request (alike : AlikeFiles fs gs) (kind : Ref.Kind) (words : List String) :
    Cli.CommandRequest.ofWords gs kind words = Cli.CommandRequest.ofWords fs kind words := by
  have repo : Cli.readRepo gs = Cli.readRepo fs := by
    funext written
    rw [Cli.readRepo, Cli.readRepo, alike.isPlainFile]
  unfold Cli.CommandRequest.ofWords Cli.readValues
  rw [repo]

end Places

/-! ### Settings -/

/-- The verbosity in the layers is one that there is, if they can be read. -/
def ValidVerbosity (w : Surroundings) (chosen : Option Path) : Prop :=
  ∀ lower user upper, Layers w (Settings.projectPath w.files chosen) lower user upper →
    ∃ v, Settings.readVerbosity (Settings.merge user lower upper) = .ok v

/-- Settings that were loaded have a verbosity that there is. -/
theorem validVerbosity_of_load {w : Surroundings} {chosen : Option Path} {s : Settings}
    (loaded : (Settings.load w chosen).2 = .ok s) : ValidVerbosity w chosen := by
  obtain ⟨project, user, environment, layers, checked⟩ := load_layers loaded
  intro lower user' upper layers'
  obtain rfl : lower = project := Except.ok.inj (layers'.project.symm.trans layers.project)
  obtain rfl : user' = user := Except.ok.inj (layers'.user.symm.trans layers.user)
  obtain rfl : upper = environment :=
    Except.ok.inj (layers'.environment.symm.trans layers.environment)
  unfold Settings.check at checked
  split at checked
  · cases checked
  · split at checked
    · next accepted =>
      unfold Settings.ofEntries at accepted
      split at accepted
      · next read => exact ⟨_, read⟩
      · cases accepted
      · cases accepted
    · cases checked

/-- What is loaded from all layers, if they can be read. -/
theorem loadFrom_snd (w : Surroundings) (project : Path) :
    (Settings.loadFrom w project).2 =
      (File.readLayer w.files project).2.bind fun lower =>
        (Settings.readUserLayer w).2.bind fun user =>
          w.environment.layer.bind fun upper =>
            Settings.check w.files.workingDirectory (Settings.merge user lower upper) := by
  unfold Settings.loadFrom
  rcases File.readLayer w.files project with ⟨told, _ | lower⟩
  · rfl
  · rcases Settings.readUserLayer w with ⟨more, _ | user⟩
    · rfl
    · cases w.environment.layer <;> rfl

/-- After layers that are alike, the same options come of what does the same with them. -/
theorem AlikeLayers.bind {x y : Except Raised Entries} (alike : AlikeLayers x y)
    {f g : Entries → Except Raised Settings}
    (follow : ∀ es fs, x = .ok es → y = .ok fs → SameOptions es fs →
      (g fs).map Settings.config = (f es).map Settings.config) :
    (y.bind g).map Settings.config = (x.bind f).map Settings.config := by
  cases alike with
  | refused r => rfl
  | read same => exact follow _ _ rfl rfl same

section Settings

variable {w w' : Surroundings} (files : AlikeFiles w.files w'.files)
  (environment : AlikeVariables w.environment w'.environment)
include files environment

/-- The user's files are alike as layers. -/
theorem readUserLayer_alike :
    AlikeLayers (Settings.readUserLayer w).2 (Settings.readUserLayer w').2 := by
  unfold Settings.readUserLayer
  rw [environment.home]
  cases w.environment.home with
  | error f => exact .refused _
  | ok home => exact files.layers _

/-- Layers that are alike are put together to the same options. -/
theorem loadFrom_config_alike {project : Path}
    (valid : ∀ lower user upper, Layers w project lower user upper →
      ∃ v, Settings.readVerbosity (Settings.merge user lower upper) = .ok v)
    (valid' : ∀ lower user upper, Layers w' project lower user upper →
      ∃ v, Settings.readVerbosity (Settings.merge user lower upper) = .ok v) :
    (Settings.loadFrom w' project).2.map Settings.config =
      (Settings.loadFrom w project).2.map Settings.config := by
  rw [loadFrom_snd, loadFrom_snd]
  refine (files.layers project).bind fun lower lower' below below' same => ?_
  refine (readUserLayer_alike files environment).bind fun user user' above above' sameUser => ?_
  refine environment.layers.bind fun upper upper' layered layered' sameUpper => ?_
  obtain ⟨v, verbosity⟩ := valid lower user upper ⟨below, above, layered⟩
  obtain ⟨v', verbosity'⟩ := valid' lower' user' upper' ⟨below', above', layered'⟩
  have distinct := layer_distinct layered
  have distinct' := layer_distinct layered'
  -- The environment is put over the project's file, and both over the user's.
  have merged : SameOptions (Settings.merge user lower upper)
      (Settings.merge user' lower' upper') :=
    sameUser.overlay (distinct_overlay (readLayer_layered below).outer upper)
      (distinct_overlay (readLayer_layered below').outer upper')
      (same.overlay distinct distinct' sameUpper)
  rw [files.workingDirectory]
  exact check_config merged _ verbosity verbosity'

end Settings

/-- Surroundings that are alike give the same options, if the verbosity is one that there is. -/
theorem load_alike (w w' : Surroundings) {chosen : Option Path}
    (files : AlikeFiles w.files w'.files)
    (environment : AlikeVariables w.environment w'.environment) (valid : ValidVerbosity w chosen)
    (valid' : ValidVerbosity w' chosen) :
    (Settings.load w' chosen).2.map Settings.config =
      (Settings.load w chosen).2.map Settings.config := by
  have path : Settings.projectPath w'.files chosen = Settings.projectPath w.files chosen := by
    rw [Settings.projectPath, Settings.projectPath, files.workingDirectory]
  unfold ValidVerbosity at valid'
  unfold Settings.load
  rw [path] at valid' ⊢
  exact loadFrom_config_alike files environment valid valid'

end ReleaseRefs.Proofs.Config
