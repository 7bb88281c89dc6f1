import ReleaseRefs.Config.Coercion
import ReleaseRefs.Ref.Name

/-!
# `ReleaseRefs.Config.Basic`: the options of a publishing run

- `Config` has the options, `Config.default` the values they have unless something says otherwise.
- `Config.ofValue` reads them from a mapping and reports every option it cannot read, in order.
- `Config.Sound` says what holds of all options that were read (`ofEntries_sound`).
- `Config.dump` writes them as a mapping; `ofValue_dump`: reading that gives sound options back.
-/

set_option autoImplicit false

namespace ReleaseRefs

/-- The options of a publishing run. -/
structure Config where
  /-- Pushes are only simulated. -/
  dryRun : Bool
  /-- How often a failed network command is tried again. -/
  maxRetries : Int
  repoPath : Path
  /-- The branch that is checked out first; published tags must be reachable from it. -/
  defaultBranch : String
  remote : String
  /-- What release tags start with. -/
  tagPrefix : String
  deriving DecidableEq, Repr

namespace Config

/-- The options by name. -/
inductive Field where
  | dryRun
  | maxRetries
  | repoPath
  | defaultBranch
  | remote
  | tagPrefix
  deriving DecidableEq, Repr

/-- The options in their order. -/
def Field.all : List Field :=
  [.dryRun, .maxRetries, .repoPath, .defaultBranch, .remote, .tagPrefix]

/-- The key of an option. -/
def Field.key : Field → String
  | .dryRun => "dry_run"
  | .maxRetries => "max_retries"
  | .repoPath => "repo_path"
  | .defaultBranch => "default_branch"
  | .remote => "remote"
  | .tagPrefix => "tag_prefix"

/-- The branch that is checked out unless the configuration names another. -/
def usualBranch : String := "master"

/-- The remote to publish to unless the configuration names another. -/
def usualRemote : String := "origin"

/-- The options of a run in a directory, as long as nothing says otherwise. -/
def default (workingDirectory : Path) : Config where
  dryRun := true
  maxRetries := 3
  repoPath := workingDirectory
  defaultBranch := usualBranch
  remote := usualRemote
  tagPrefix := Ref.defaultTagStart

/-- Reads one option from a mapping; a missing key leaves the option as it was. -/
def readField {α : Type} (es : Entries) (field : Field) (read : Value → Except Complaint α)
    (usual : α) : Except FieldError α :=
  match es.getText? field.key with
  | none => .ok usual
  | some v =>
    match read v with
    | .ok a => .ok a
    | .error c => .error ⟨[field.key], c, v⟩

/-- The complaint of an option, if there is one. -/
def complaint {α : Type} : Except FieldError α → List FieldError
  | .ok _ => []
  | .error e => [e]

/-- Reads the options from the entries of a mapping. -/
def ofEntries (base : Config) (es : Entries) : Except (List FieldError) Config :=
  let a := readField es .dryRun Coercion.truth base.dryRun
  let b := readField es .maxRetries Coercion.count base.maxRetries
  let c := readField es .repoPath Coercion.path base.repoPath
  let d := readField es .defaultBranch Coercion.name base.defaultBranch
  let e := readField es .remote Coercion.name base.remote
  let f := readField es .tagPrefix Coercion.text base.tagPrefix
  match a, b, c, d, e, f with
  | .ok a, .ok b, .ok c, .ok d, .ok e, .ok f => .ok ⟨a, b, c, d, e, f⟩
  | _, _, _, _, _, _ =>
    .error (complaint a ++ complaint b ++ complaint c ++ complaint d ++ complaint e ++ complaint f)

/-- Reads the options from a value, which has to be a mapping. -/
def ofValue (workingDirectory : Path) (v : Value) : Except (List FieldError) Config :=
  match v with
  | .map es => ofEntries (default workingDirectory) es
  | _ => .error [⟨[], .mappingKind, v⟩]

/-- The options as a mapping. -/
def dump (c : Config) : Entries :=
  [(.text "dry_run", .bool c.dryRun), (.text "max_retries", .int c.maxRetries),
    (.text "repo_path", .path c.repoPath), (.text "default_branch", .text c.defaultBranch),
    (.text "remote", .text c.remote), (.text "tag_prefix", .text c.tagPrefix)]

/-- The number of retries is not negative, and the two names are not blank. -/
structure Sound (c : Config) : Prop where
  retries : 0 ≤ c.maxRetries
  branch : Text.isBlankText c.defaultBranch = false
  remote : Text.isBlankText c.remote = false

/-- An option that was read is the usual one or one that its reader accepts. -/
theorem readField_ok {α : Type} {es : Entries} {field : Field}
    {read : Value → Except Complaint α} {usual a : α}
    (h : readField es field read usual = .ok a) : a = usual ∨ ∃ v, read v = .ok a := by
  unfold readField at h
  split at h
  · exact .inl (Except.ok.inj h).symm
  · split at h
    · rename_i b hb
      exact .inr ⟨_, hb.trans (congrArg Except.ok (Except.ok.inj h))⟩
    · cases h

/-- Options read over sound ones are sound. -/
theorem ofEntries_sound {base c : Config} {es : Entries} (sound : base.Sound)
    (h : ofEntries base es = .ok c) : c.Sound := by
  unfold ofEntries at h
  simp only at h
  split at h
  · rename_i a b p d e f _ hb _ hd he _
    obtain rfl := Except.ok.inj h
    refine ⟨?_, ?_, ?_⟩
    · rcases readField_ok hb with rfl | ⟨v, hv⟩
      · exact sound.retries
      · exact Coercion.count_nonnegative hv
    · rcases readField_ok hd with rfl | ⟨v, hv⟩
      · exact sound.branch
      · exact Coercion.name_not_blank hv
    · rcases readField_ok he with rfl | ⟨v, hv⟩
      · exact sound.remote
      · exact Coercion.name_not_blank hv
  · cases h

/-- The usual options are sound. -/
theorem default_sound (workingDirectory : Path) : (default workingDirectory).Sound where
  retries := (by decide : (0 : Int) ≤ 3)
  branch := (by decide : Text.isBlankText "master" = false)
  remote := (by decide : Text.isBlankText "origin" = false)

/-- The options that were read from a value are sound. -/
theorem ofValue_sound {workingDirectory : Path} {v : Value} {c : Config}
    (h : ofValue workingDirectory v = .ok c) : c.Sound := by
  cases v with
  | map es => exact ofEntries_sound (default_sound workingDirectory) h
  | _ => cases h

/-- The options that `dump` wrote are read back, whatever holds without them. -/
theorem ofEntries_dump {c : Config} (base : Config) (sound : c.Sound) :
    ofEntries base c.dump = .ok c := by
  have found (f : Field) : c.dump.getText? f.key = some (match f with
      | .dryRun => .bool c.dryRun
      | .maxRetries => .int c.maxRetries
      | .repoPath => .path c.repoPath
      | .defaultBranch => .text c.defaultBranch
      | .remote => .text c.remote
      | .tagPrefix => .text c.tagPrefix) := by
    cases f <;> simp [dump, Entries.getText?, Entries.get?, Value.sameKey, Field.key]
  have notNegative : ¬ c.maxRetries < 0 := Int.not_lt.2 sound.retries
  simp [ofEntries, readField, found, Coercion.truth, Coercion.count, Coercion.whole,
    Coercion.path, Coercion.name, Coercion.text, sound.branch, sound.remote, notNegative]

/-- Reading the mapping that `dump` wrote gives the options back. -/
theorem ofValue_dump {c : Config} (workingDirectory : Path) (sound : c.Sound) :
    ofValue workingDirectory (.map c.dump) = .ok c :=
  ofEntries_dump (default workingDirectory) sound

end Config

end ReleaseRefs
