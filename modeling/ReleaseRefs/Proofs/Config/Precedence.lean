import ReleaseRefs.Proofs.Config.Fields
import ReleaseRefs.Proofs.Config.Refusals
import ReleaseRefs.Proofs.Config.Variables
import ReleaseRefs.Proofs.Run

/-!
# `ReleaseRefs.Proofs.Config.Precedence`: which layer decides

The layers of settings are put over each other before anything is checked. Seen from one option, all
that matters is which of them is the first to say something: joining mappings never hides what a
lower layer says of another option, and a value that is no mapping hides nothing that a mapping
above it leaves open.

- `optionIn_overlay`: this, for one layer over another.
- `readLayer_layered`: the layer of a file has no key twice, without which it would fail.
- `check_governs`: what checked settings are, option by option.
- `first_layer_decides`: what the options of one run are.
- `other_spelling_decides`: the object in a variable may spell an option in two ways, and then not
  even the option's own variable is sure to decide.
-/

set_option autoImplicit false

namespace ReleaseRefs.Proofs.Config

open ReleaseRefs.Config
open Environment (verbosityName)

/-! ### Layers over each other -/

/-- Joining with what stands below changes nothing that an option takes a value for: options take no
mappings. -/
theorem taken_overlayValue (field : Field) (lower : Option Value) (v : Value) :
    taken field (Layer.overlayValue lower v) = taken field v := by
  unfold Layer.overlayValue
  split
  · split <;> cases field <;> rfl
  · rfl

/-- A joined value is a mapping exactly if the higher one is. -/
theorem overlayValue_map {lower : Option Value} {v : Value} {es : Entries}
    (joined : Layer.overlayValue lower v = .map es) : ∃ ds, v = .map ds := by
  unfold Layer.overlayValue at joined
  split at joined
  · exact ⟨_, rfl⟩
  · exact ⟨es, joined⟩

/-- What is under an option's key in one layer over another: what the higher layer has there, or
else what the lower one has, as far as the option can tell. -/
theorem optionIn_overlay {upper : Entries} (layered : Layered upper) (offers : OffersMap upper)
    (lower : Entries) (field : Field) :
    (optionIn (Layer.overlay lower upper) field).map (taken field) =
      (optionIn upper field <|> optionIn lower field).map (taken field) := by
  unfold optionIn
  rw [getText?_overlay layered.outer]
  cases above : upper.getText? "publisher" with
  | none => rfl
  | some v =>
    obtain ⟨es, rfl⟩ := offers v above
    have distinct := layered.inner es above
    cases below : lower.getText? "publisher" with
    | none => simp [Layer.overlayValue, optionOf]
    | some w =>
      cases w with
      | map ds =>
        simp only [Layer.overlayValue, optionOf]
        rw [getText?_overlay distinct]
        cases Entries.getText? es field.key with
        | none => rfl
        | some v => simp [taken_overlayValue]
      | _ => simp [Layer.overlayValue, optionOf]

theorem Layered.overlay {lower upper : Entries} (below : Layered lower) (above : Layered upper) :
    Layered (Layer.overlay lower upper) where
  outer := distinct_overlay below.outer upper
  inner := by
    intro ds found
    rw [getText?_overlay above.outer] at found
    cases high : upper.getText? "publisher" with
    | none =>
      rw [high] at found
      exact below.inner ds found
    | some v =>
      rw [high] at found
      have joined := Option.some.inj found
      obtain ⟨es, rfl⟩ := overlayValue_map joined
      unfold Layer.overlayValue at joined
      split at joined
      · next low =>
        cases joined
        exact distinct_overlay (below.inner _ low) es
      · cases joined
        exact above.inner _ high

theorem OffersMap.of_overlay {lower upper : Entries} (layered : Layered upper)
    (offers : OffersMap (Layer.overlay lower upper)) : OffersMap upper := by
  intro v found
  have joined := getText?_overlay layered.outer lower "publisher"
  rw [found] at joined
  obtain ⟨ds, same⟩ := offers _ joined
  exact overlayValue_map same

/-! ### Layers from files -/

theorem textKeys_openedEntries (es : Entries) : textKeys (File.openedEntries es) = textKeys es := by
  rw [textKeys, File.openedEntries, List.filterMap_map]
  rfl

theorem mem_of_getText? {es : Entries} {s : String} {v : Value} (found : es.getText? s = some v) :
    ∃ e ∈ es, e.2 = v := by
  induction es with
  | nil => cases found
  | cons e r ih =>
    obtain ⟨k, w⟩ := e
    by_cases same : k = .text s
    · subst same
      rw [getText?_cons_self] at found
      exact ⟨_, List.mem_cons_self, Option.some.inj found⟩
    · rw [getText?_cons_of_ne same] at found
      obtain ⟨e, member, value⟩ := ih found
      exact ⟨e, List.mem_cons_of_mem _ member, value⟩

theorem layered_openedEntries {es : Entries} (keyed : Yaml.Keyed (.map es)) :
    Layered (File.openedEntries es) where
  outer := by
    rw [Distinct, textKeys_openedEntries]
    exact (keyed es rfl).1
  inner := by
    intro ds found
    obtain ⟨e, member, value⟩ := mem_of_getText? found
    obtain ⟨d, inside, rfl⟩ := List.mem_map.1 member
    simp only at value
    split at value
    · cases value
      exact (keyed es rfl).1
    · exact (keyed es rfl).2 d inside ds value

theorem layered_nil : Layered [] := ⟨distinct_nil, nofun⟩

/-- No key stands twice in what a file holds. -/
theorem readLayer_layered {fs : Files} {p : Path} {es : Entries}
    (read : (File.readLayer fs p).2 = .ok es) : Layered es := by
  unfold File.readLayer at read
  split at read
  · cases read
  · split at read
    · split at read
      · cases read
      · next s _ =>
        split at read
        · cases read
        · next v value =>
          unfold File.entriesOf at read
          split at read
          · cases read
            exact layered_nil
          · cases read
            exact layered_openedEntries ((Yaml.read_keyed s).ok value)
          · cases read
    · cases read
      exact layered_nil

/-! ### All layers together -/

/-- The options that were read are governed by what their layers have, and where these have
something in place of the options, it is a mapping. -/
theorem readConfig_governs {workingDirectory : Path} {es : Entries} {c : Config}
    (read : Settings.readConfig workingDirectory es = .ok c) :
    OffersMap es ∧
      ∀ field, Governs field (Config.default workingDirectory) c (optionIn es field) := by
  unfold Settings.readConfig at read
  split at read
  · next absent =>
    cases read
    refine ⟨fun v found => ?_, fun field => ?_⟩
    · rw [absent] at found
      cases found
    · rw [optionIn, absent]
      rfl
  · next v present =>
    split at read
    · next accepted =>
      cases read
      unfold ofValue at accepted
      split at accepted
      · next ds =>
        refine ⟨fun w found => ?_, fun field => ?_⟩
        · rw [present] at found
          exact ⟨ds, (Option.some.inj found).symm⟩
        · rw [optionIn, present]
          exact ofEntries_governs accepted field
      · cases accepted
    · cases read

/-- The verbosity is what a value says, or the usual one if there is no value. -/
def GovernsVerbosity (w : Verbosity) : Option Value → Prop
  | none => w = .warning
  | some v => v = .text w.word

theorem word_of_ofWord? {s : String} {w : Verbosity} (read : Verbosity.ofWord? s = some w) :
    s = w.word := by
  unfold Verbosity.ofWord? at read
  split at read <;> cases read <;> rfl

theorem readVerbosity_governs {es : Entries} {w : Verbosity}
    (read : Settings.readVerbosity es = .ok w) : GovernsVerbosity w (es.getText? "verbosity") := by
  unfold Settings.readVerbosity at read
  split at read
  · next absent =>
    cases read
    rw [absent]
    rfl
  · next v present =>
    rw [present]
    split at read
    · next s =>
      split at read
      · next word =>
        cases read
        exact congrArg Value.text (word_of_ofWord? word)
      · cases read
    · cases read

/-- A word that is joined with what stands below was a word before. -/
theorem GovernsVerbosity.of_overlay {upper : Entries} (distinct : Distinct upper)
    {lower : Entries} {w : Verbosity} {o : Option Value}
    (governs : GovernsVerbosity w ((Layer.overlay lower upper).getText? "verbosity" <|> o)) :
    GovernsVerbosity w (upper.getText? "verbosity" <|> lower.getText? "verbosity" <|> o) := by
  rw [getText?_overlay distinct] at governs
  cases above : upper.getText? "verbosity" with
  | none =>
    rw [above] at governs
    exact governs
  | some v =>
    rw [above] at governs
    have joined : Layer.overlayValue (lower.getText? "verbosity") v = .text w.word := governs
    unfold Layer.overlayValue at joined
    split at joined
    · split at joined <;> cases joined
    · exact joined

theorem map_orElse {α β : Type} (f : α → β) (o p : Option α) :
    (o <|> p).map f = (o.map f <|> p.map f) := by
  cases o <;> rfl

/-- What checked settings are, option by option and layer by layer. -/
theorem check_governs {workingDirectory : Path} {user project environment : Entries}
    {settings : Settings} (above : Layered environment) (offers : OffersMap environment)
    (between : Layered project)
    (checked : Settings.check workingDirectory (Settings.merge user project environment) =
      .ok settings) :
    (∀ field, Governs field (Config.default workingDirectory) settings.config
      (optionIn environment field <|> optionIn project field <|> optionIn user field)) ∧
    GovernsVerbosity settings.verbosity (environment.getText? "verbosity" <|>
      project.getText? "verbosity" <|> user.getText? "verbosity") := by
  unfold Settings.check Settings.merge at checked
  split at checked
  · cases checked
  · split at checked
    · next accepted =>
      cases checked
      have upper := between.overlay above
      unfold Settings.ofEntries at accepted
      split at accepted
      · next c w readConfig readVerbosity =>
        cases accepted
        obtain ⟨mapping, governs⟩ := readConfig_governs readConfig
        refine ⟨fun field => (governs field).congr ?_, ?_⟩
        · have upperOption := optionIn_overlay above offers project field
          have allOptions := optionIn_overlay upper (.of_overlay upper mapping) user field
          rw [allOptions, map_orElse, upperOption, map_orElse, map_orElse, map_orElse]
          cases (optionIn environment field).map (taken field) <;> rfl
        · have word := readVerbosity_governs readVerbosity
          have first := GovernsVerbosity.of_overlay (o := none) upper.outer (by simpa using word)
          exact .of_overlay above.outer (by simpa using first)
      · cases accepted
      · cases accepted
    · cases checked

/-- Settings that were loaded were checked, with what the files and the environment hold. -/
theorem load_layers {w : Surroundings} {chosen : Option Path} {settings : Settings}
    (loaded : (Settings.load w chosen).2 = .ok settings) :
    ∃ project user environment,
      Layers w (Settings.projectPath w.files chosen) project user environment ∧
        Settings.check w.files.workingDirectory (Settings.merge user project environment) =
          .ok settings := by
  have steps := loadFrom_loaded w (Settings.projectPath w.files chosen)
  have last : (Settings.loadFrom w (Settings.projectPath w.files chosen)).2 = .ok settings := loaded
  generalize Settings.loadFrom w (Settings.projectPath w.files chosen) = result at steps last
  cases steps with
  | project | user | environment => cases last
  | checked below above layered =>
    exact ⟨_, _, _, ⟨by rw [below], by rw [above], layered⟩, last⟩

/-- Each option of a run is what the first of these says about it: what was said for this run, the
environment, the project's file, the user's file; and else it is the usual one. -/
theorem first_layer_decides {fs : Files} {given full : Environment} {object : Entries}
    {chosen : Option Path} {settings : Settings} {said : List (String × Value)} {config : Config}
    (extended : VariableFile.extend fs given = .ok full) (only : OnlyOptions full)
    (holds : Holds full object) (loaded : (Settings.load ⟨fs, full⟩ chosen).2 = .ok settings)
    (configured : settings.configFor said = .ok config) :
    ∃ project user,
      (File.readLayer fs (Settings.projectPath fs chosen)).2 = .ok project ∧
      (Settings.readUserLayer ⟨fs, full⟩).2 = .ok user ∧
      (∀ field, Governs field (Config.default fs.workingDirectory) config
        (saidFor said field <|> environmentOption full object field <|>
          optionIn project field <|> optionIn user field)) ∧
      GovernsVerbosity settings.verbosity ((lastNamed? full verbosityName).map .text <|>
        project.getText? "verbosity" <|> user.getText? "verbosity") ∧
      (∀ field, PlainlySpelled field object →
        environmentOption full object field =
          (single full field <|> object.getText? field.key)) ∧
      ∀ name, full.get? name =
        (given.get? name <|> firstBound? (fileBindings fs given) name) := by
  obtain ⟨project, user, environment, layers, checked⟩ := load_layers loaded
  obtain ⟨shown, same, shows⟩ := layer_shows only holds
  obtain rfl : shown = environment := Except.ok.inj (same.symm.trans layers.environment)
  obtain ⟨options, verbosity⟩ := check_governs shows.layered shows.offers
    (readLayer_layered layers.project) checked
  refine ⟨project, user, layers.project, layers.user, fun field => ?_, ?_, fun field plain => ?_,
    get?_extend extended⟩
  · have option := options field
    rw [shows.option] at option
    exact (configFor_governs (Settings.load_sound loaded) configured field).trans option
  · rwa [shows.verbosity] at verbosity
  · exact environmentOption_plain holds.distinct plain

/-! ### Two environments -/

/-- A working directory with a project file that says one option. -/
def prefixFile : Files where
  workingDirectory := ⟨"/work"⟩
  entries := [(⟨"/work/ref-publisher.yaml"⟩,
    .file "publisher: \x7btag_prefix: r-\x7d".toUTF8.toList)]

/-- Variables with an object, and with one option of their own. -/
def layeredVariables : Environment :=
  [("REF_PUBLISHER_PUBLISHER", "\x7b\"remote\": \"j\", \"default_branch\": \"main\"\x7d"),
    ("REF_PUBLISHER_PUBLISHER__REMOTE", "n")]

/-- What these layers amount to. -/
def layeredConfig : Config := ⟨true, 3, ⟨"/work"⟩, "main", "n", "r-"⟩

/-- The branch comes from the object, the remote from its own variable, the prefix from the file,
and what was said for the run switches the rehearsal off. -/
theorem first_layer_decides_four_layers :
    ∃ object project user, Holds layeredVariables object ∧
      (File.readLayer prefixFile (Settings.projectPath prefixFile none)).2 = .ok project ∧
      ∀ field, Governs field (Config.default ⟨"/work"⟩) { layeredConfig with dryRun := false }
        (saidFor [("dry_run", .bool false), ("remote", .null)] field <|>
          environmentOption layeredVariables object field <|> optionIn project field <|>
          optionIn user field) := by
  obtain ⟨object, holds⟩ : ∃ object, Holds layeredVariables object := by decide +kernel
  have extended : VariableFile.extend prefixFile layeredVariables = .ok layeredVariables :=
    ok_of_toOption (by decide +kernel)
  have loaded : (Settings.load ⟨prefixFile, layeredVariables⟩ none).2 =
      .ok ⟨layeredConfig, .warning⟩ := ok_of_toOption (by decide +kernel)
  have configured : Settings.configFor ⟨layeredConfig, .warning⟩
      [("dry_run", .bool false), ("remote", .null)] = .ok { layeredConfig with dryRun := false } :=
    ok_of_toOption (by decide +kernel)
  obtain ⟨project, user, read, -, governs, -⟩ :=
    first_layer_decides extended (by decide +kernel) holds loaded configured
  exact ⟨object, project, user, holds, read, governs⟩

/-- Variables with an object that spells one option in two ways, and with the same option on its
own. -/
def twiceSpelled : Environment :=
  [("REF_PUBLISHER_PUBLISHER", "\x7b\"remote\": \"a\", \"REMOTE\": \"x\"\x7d"),
    ("REF_PUBLISHER_PUBLISHER__REMOTE", "y")]

/-- An option that an object spells in another case as well may be what this other spelling says,
although the option has a variable of its own. -/
theorem other_spelling_decides :
    OnlyOptions twiceSpelled ∧ (twiceSpelled.map fun e => Text.lower e.1).Nodup ∧
      (∃ object, Holds twiceSpelled object) ∧
      lastNamed? twiceSpelled (singleName .remote) = some "y" ∧
      ∃ settings config,
        (Settings.load ⟨⟨⟨"/work"⟩, []⟩, twiceSpelled⟩ none).2 = .ok settings ∧
          settings.configFor [] = .ok config ∧ config.remote = "x" := by
  refine ⟨by decide +kernel, by decide +kernel, by decide +kernel, by decide +kernel, ?_⟩
  have loaded : (Settings.load ⟨⟨⟨"/work"⟩, []⟩, twiceSpelled⟩ none).2 =
      .ok ⟨⟨true, 3, ⟨"/work"⟩, "master", "x", "v"⟩, .warning⟩ :=
    ok_of_toOption (by decide +kernel)
  exact ⟨_, _, loaded, Settings.configFor_nil _ (Settings.load_sound loaded), rfl⟩

end ReleaseRefs.Proofs.Config
