import ReleaseRefs.Config.Settings
import ReleaseRefs.Config.VariableFile
import ReleaseRefs.Proofs.Config.Entries
import ReleaseRefs.Proofs.Json

/-!
# `ReleaseRefs.Proofs.Config.Variables`: options in environment variables

An option may be said in two ways: as a member of the JSON object in one variable, and in a variable
of its own. Names of variables do not depend on case, and neither do the names of members.

- `lastNamed?` is the value of a variable by its name in lower case; `get?_lowered`: this is what
  the layer of the environment looks at.
- `environmentOption` is what both ways together say about an option. `environmentOption_plain`: if
  the object spells the option in no other case, its own variable counts first, and then the member.
- `get?_extend`: variables of a file count for names that are not set.
- `layer_shows`: the layer of an environment has this of each option, and it has the verbosity.
-/

set_option autoImplicit false

namespace ReleaseRefs.Proofs.Config

open ReleaseRefs.Config
open Environment (lowered optionsName verbosityName singleOptions withOptionKeys optionKey)

/-! ### Variables by name -/

/-- The value of a variable by its name in lower case. Of several names that are this one up to case
the last counts. -/
def lastNamed? (env : Environment) (name : String) : Option String :=
  (env.filter fun e => Text.lower e.1 == name).getLast?.map Prod.snd

theorem filter_set (env : Environment) (name value : String) :
    (env.set name value).filter (fun e => e.1 == name) =
      (name, value) :: (env.filter fun e => e.1 == name).drop 1 := by
  induction env with
  | nil => simp [Environment.set]
  | cons e r ih =>
    rw [Environment.set]
    split
    · next same => simp [same]
    · next differ => simp [differ, ih]

theorem filter_set_of_ne (env : Environment) {name other : String} (differ : name ≠ other)
    (value : String) :
    (env.set name value).filter (fun e => e.1 == other) = env.filter fun e => e.1 == other := by
  induction env with
  | nil => simp [Environment.set, differ]
  | cons e r ih =>
    rw [Environment.set]
    split
    · next same => simp [same, differ]
    · simp only [List.filter_cons, ih]

/-- In lower case a name occurs at most once, with the value that counts. -/
theorem filter_lowered (env : Environment) (name : String) :
    (lowered env).filter (fun e => e.1 == name) =
      ((lastNamed? env name).map fun v => (name, v)).toList := by
  -- By induction from the end: the last variable puts its value over what was set before.
  induction env using List.reverseRecOn with
  | nil => rfl
  | append_singleton env e ih =>
    have step : lowered (env ++ [e]) = (lowered env).set (Text.lower e.1) e.2 := by
      simp [lowered]
    rw [step]
    by_cases same : Text.lower e.1 = name
    · subst same
      rw [filter_set, ih]
      cases found : lastNamed? env (Text.lower e.1) <;>
        simp [lastNamed?, List.filter_append]
    · rw [filter_set_of_ne _ same, ih]
      simp [lastNamed?, List.filter_append, same]

/-- In lower case a variable has the value that counts. -/
theorem get?_lowered (env : Environment) (name : String) :
    (lowered env).get? name = lastNamed? env name := by
  have found := congrArg List.head? (filter_lowered env name)
  rw [List.head?_filter] at found
  simp only [Environment.get?, ← beq_eq_decide, found]
  cases lastNamed? env name <;> rfl

theorem mem_set {env : Environment} {name value : String} {e : String × String}
    (member : e ∈ env.set name value) : e ∈ env ∨ e.1 = name := by
  induction env with
  | nil =>
    obtain rfl := List.mem_singleton.1 member
    exact .inr rfl
  | cons d r ih =>
    rw [Environment.set] at member
    split at member
    · rcases List.mem_cons.1 member with rfl | member
      · exact .inr rfl
      · exact .inl (List.mem_cons_of_mem _ member)
    · rcases List.mem_cons.1 member with rfl | member
      · exact .inl List.mem_cons_self
      · exact (ih member).imp_left (List.mem_cons_of_mem _)

theorem mem_lowered {env : Environment} {e : String × String} (member : e ∈ lowered env) :
    ∃ d ∈ env, e.1 = Text.lower d.1 := by
  induction env using List.reverseRecOn with
  | nil => cases member
  | append_singleton env d ih =>
    rw [show lowered (env ++ [d]) = (lowered env).set (Text.lower d.1) d.2 by simp [lowered]]
      at member
    rcases mem_set member with member | same
    · obtain ⟨c, before, same⟩ := ih member
      exact ⟨c, List.mem_append_left _ before, same⟩
    · exact ⟨d, by simp, same⟩

/-! ### Variables of a file -/

/-- What the file with variables sets, with its references filled in. -/
def fileBindings (fs : Files) (env : Environment) : List VariableFile.Binding :=
  if VariableFile.isOff env then []
  else
    match VariableFile.readText fs with
    | .ok (some s) => VariableFile.resolve env [] (VariableFile.read s)
    | _ => []

/-- The first value that a row of bindings gives to a name. -/
def firstBound? (bs : List VariableFile.Binding) (name : String) : Option String :=
  bs.findSome? fun b => if b.1 = name then b.2 else none

theorem get?_append (env : Environment) (name other value : String) :
    Environment.get? (env ++ [(other, value)]) name =
      (env.get? name <|> if other = name then some value else none) := by
  simp only [Environment.get?, List.find?_append]
  cases env.find? fun e => decide (e.1 = name) with
  | some e => rfl
  | none => by_cases same : other = name <;> simp [same]

theorem get?_setIfAbsent {b : VariableFile.Binding} {env next : Environment}
    (ran : VariableFile.setIfAbsent env b = .ok next) (name : String) :
    next.get? name = (env.get? name <|> if b.1 = name then b.2 else none) := by
  unfold VariableFile.setIfAbsent at ran
  split at ran
  · next absent value =>
    split at ran
    · cases ran
    · cases ran
      rw [get?_append, value]
  · next set =>
    cases ran
    cases found : env.get? name with
    | some v => rfl
    | none =>
      -- A name that is not set stays so only if the binding is of another name or has no value.
      by_cases same : b.1 = name
      · cases value : b.2 with
        | none => simp
        | some v => exact absurd value (set v (same ▸ found))
      · simp [same]

theorem get?_setAllAbsent {bs : List VariableFile.Binding} {env next : Environment}
    (ran : VariableFile.setAllAbsent bs env = .ok next) (name : String) :
    next.get? name = (env.get? name <|> firstBound? bs name) := by
  induction bs generalizing env with
  | nil =>
    cases ran
    simp [firstBound?]
  | cons b bs ih =>
    unfold VariableFile.setAllAbsent at ran
    cases first : VariableFile.setIfAbsent env b with
    | error f => simp [first, Except.bind] at ran
    | ok mid =>
      simp only [first, Except.bind] at ran
      have front : firstBound? (b :: bs) name =
          ((if b.1 = name then b.2 else none) <|> firstBound? bs name) := by
        rw [firstBound?, List.findSome?_cons]
        cases (if b.1 = name then b.2 else none) <;> rfl
      rw [ih ran, get?_setIfAbsent first, front]
      cases env.get? name <;> rfl

/-- Variables of the file count for names that are not set. -/
theorem get?_extend {fs : Files} {env next : Environment}
    (ran : VariableFile.extend fs env = .ok next) (name : String) :
    next.get? name = (env.get? name <|> firstBound? (fileBindings fs env) name) := by
  unfold VariableFile.extend at ran
  unfold fileBindings
  split at ran
  · next off =>
    cases ran
    simp [off, firstBound?]
  · next on =>
    rw [if_neg on]
    split at ran
    · next s text =>
      rw [text]
      exact get?_setAllAbsent ran name
    · next text =>
      cases ran
      simp [text, firstBound?]
    · cases ran

/-! ### Variables with single options -/

/-- The name of the variable with a single option, in lower case. -/
def singleName (field : Field) : String := optionsName ++ "__" ++ field.key

/-- Of the variables below the one with the options, there are only those with a single option. -/
def OnlyOptions (env : Environment) : Prop :=
  ∀ e ∈ env, (optionsName ++ "__").toList <+: (Text.lower e.1).toList →
    Text.lower e.1 ∈ Field.all.map singleName

instance (env : Environment) : Decidable (OnlyOptions env) :=
  inferInstanceAs (Decidable (∀ e ∈ env, _ → _))

theorem dropStart?_singleName (field : Field) :
    Ref.dropStart? (optionsName ++ "__") (singleName field) = some field.key :=
  Ref.dropStart?_eq_some_iff.2 rfl

theorem key_inj {f g : Field} (same : f.key = g.key) : f = g := by
  cases f <;> cases g <;> first | rfl | exact absurd same (by decide)

theorem lower_key (field : Field) : Text.lower field.key = field.key := by
  cases field <;> decide

/-- A key is one level of a name. -/
theorem splitLevels_key (field : Field) :
    (Environment.splitLevels field.key.toList).map String.ofList = [field.key] := by
  cases field <;> decide

/-- What the variables with single options set: each option that has one, by its key. -/
def singleEntries (vars : Environment) : Entries :=
  vars.filterMap fun e =>
    (Ref.dropStart? (optionsName ++ "__") e.1).map fun name => (.text name, .text e.2)

/-- All variables below the one with the options are named for an option. -/
def OnlySingles (vars : Environment) : Prop :=
  ∀ e ∈ vars, ∀ name, Ref.dropStart? (optionsName ++ "__") e.1 = some name →
    ∃ field : Field, name = field.key

/-- Variables with single options set no deeper entries. -/
theorem singleOptions_eq {vars : Environment} (only : OnlySingles vars) :
    singleOptions vars = Entries.insertAll [] (singleEntries vars) := by
  unfold singleOptions
  -- By induction on the variables, with what the earlier ones have set.
  generalize ([] : Entries) = es
  induction vars generalizing es with
  | nil => rfl
  | cons e r ih =>
    have rest := ih fun d member => only d (List.mem_cons_of_mem _ member)
    rw [List.foldl_cons, rest]
    cases dropped : Ref.dropStart? (optionsName ++ "__") e.1 with
    | none => simp [singleEntries, dropped]
    | some name =>
      obtain ⟨field, rfl⟩ := only e List.mem_cons_self name dropped
      simp only [splitLevels_key]
      simp [singleEntries, dropped, Environment.setBelow, Entries.insertAll]

/-! ### Spellings of a key -/

/-- The key spells an option: it is the option's own key up to case. -/
def spells (field : Field) (key : Value) : Bool :=
  (keyText? key).any fun s => Text.lower s == field.key

theorem spells_key (field : Field) : spells field (.text field.key) = true := by
  simp [spells, keyText?, lower_key]

theorem spells_key_iff {f g : Field} : spells f (.text g.key) = true ↔ g = f := by
  simp only [spells, keyText?, Option.any_some, lower_key, beq_iff_eq]
  exact ⟨key_inj, congrArg Field.key⟩

/-- A key becomes the key of an option exactly if it spells the option. -/
theorem keyText?_optionKey (field : Field) (key : Value) :
    (keyText? (optionKey key) == some field.key) = spells field key := by
  cases key with
  | text s =>
    simp only [optionKey, spells, keyText?, Option.any_some]
    cases found : Field.all.find? fun f => f.key = Text.lower s with
    | some g =>
      have lower : g.key = Text.lower s := by simpa using List.find?_some found
      simp [lower]
    | none =>
      have notLower : Text.lower s ≠ field.key := by
        intro same
        have unlike := List.find?_eq_none.1 found field (by cases field <;> decide)
        exact unlike (by simp [same])
      have notSame : s ≠ field.key := by
        rintro rfl
        exact notLower (lower_key field)
      simp [notLower, notSame]
  | _ => rfl

/-- The value of the last entry whose key spells an option. -/
def lastSpelled (field : Field) (es : Entries) : Option Value :=
  (es.filter fun e => spells field e.1).getLast?.map Prod.snd

/-- Once the names of options are in their own case, the last spelling of each decides. -/
theorem getText?_withOptionKeys (es : Entries) (field : Field) :
    (withOptionKeys es).getText? field.key = lastSpelled field es := by
  have nothing : Entries.getText? [] field.key = none := rfl
  rw [withOptionKeys, Entries.ofList, getText?_insertAll, nothing, lastText?, List.filter_map,
    List.getLast?_map, Option.map_map]
  simp [Function.comp_def, keyText?_optionKey, lastSpelled]

/-! ### The options of the environment -/

section Filter

variable {p : Value → Bool}

theorem filter_insert (es : Entries) (s : String) (v : Value) :
    (es.insert (.text s) v).filter (fun e => p e.1) =
      if p (.text s) then Entries.insert (es.filter fun e => p e.1) (.text s) v
      else es.filter fun e => p e.1 := by
  induction es with
  | nil => cases h : p (.text s) <;> simp [Entries.insert, h]
  | cons e r ih =>
    obtain ⟨k, w⟩ := e
    rw [Entries.insert]
    split
    · next same =>
      obtain rfl := sameKey_text_iff.1 same
      by_cases h : p (.text s) = true <;> simp [Entries.insert, h, Layer.sameKey_text]
    · next differ =>
      rw [List.filter_cons, ih]
      by_cases h : p (.text s) = true <;> by_cases h' : p k = true <;>
        simp [Entries.insert, h, h', differ]

/-- The entries whose keys have a property are set among those that have it. -/
theorem filter_insertAll (es : Entries) {fs : Entries} (texts : ∀ e ∈ fs, ∃ s, e.1 = .text s) :
    (es.insertAll fs).filter (fun e => p e.1) =
      Entries.insertAll (es.filter fun e => p e.1) (fs.filter fun e => p e.1) := by
  induction fs generalizing es with
  | nil => rfl
  | cons e r ih =>
    obtain ⟨k, v⟩ := e
    obtain ⟨s, same⟩ := texts (k, v) List.mem_cons_self
    obtain rfl : k = .text s := same
    have rest := ih (es.insert (.text s) v) fun d member => texts d (List.mem_cons_of_mem _ member)
    have step : es.insertAll ((.text s, v) :: r) = (es.insert (.text s) v).insertAll r := rfl
    rw [step, rest, filter_insert, List.filter_cons]
    cases h : p (.text s) <;> simp [Entries.insertAll]

end Filter

/-- Setting an entry keeps what holds of all keys and of all values. -/
theorem forall_insert {p q : Value → Prop} {es : Entries} (all : ∀ e ∈ es, p e.1 ∧ q e.2)
    {k v : Value} (key : p k) (value : q v) : ∀ e ∈ es.insert k v, p e.1 ∧ q e.2 := by
  induction es with
  | nil =>
    intro e member
    obtain rfl := List.mem_singleton.1 member
    exact ⟨key, value⟩
  | cons d r ih =>
    intro e member
    rw [Entries.insert] at member
    split at member
    · rcases List.mem_cons.1 member with rfl | member
      · exact ⟨(all d List.mem_cons_self).1, value⟩
      · exact all e (List.mem_cons_of_mem _ member)
    · rcases List.mem_cons.1 member with rfl | member
      · exact all _ List.mem_cons_self
      · exact ih (fun c inside => all c (List.mem_cons_of_mem _ inside)) e member

theorem forall_insertAll {p q : Value → Prop} {es fs : Entries} (all : ∀ e ∈ es, p e.1 ∧ q e.2)
    (also : ∀ e ∈ fs, p e.1 ∧ q e.2) : ∀ e ∈ es.insertAll fs, p e.1 ∧ q e.2 := by
  induction fs generalizing es with
  | nil => exact all
  | cons d r ih =>
    have front := also d List.mem_cons_self
    exact ih (forall_insert all front.1 front.2) fun e member =>
      also e (List.mem_cons_of_mem _ member)

/-- A layer without mappings is set entry by entry. -/
theorem overlay_eq_insertAll (lower : Entries) {upper : Entries}
    (texts : ∀ e ∈ upper, ∃ s, e.2 = .text s) :
    Layer.overlay lower upper = lower.insertAll upper := by
  induction upper generalizing lower with
  | nil => rw [Layer.overlay]; rfl
  | cons e r ih =>
    obtain ⟨k, v⟩ := e
    obtain ⟨s, same⟩ := texts (k, v) List.mem_cons_self
    obtain rfl : v = .text s := same
    have rest := fun d member => texts d (List.mem_cons_of_mem _ member)
    rw [Layer.overlay, Layer.overlayValue, ih _ rest]
    · rfl
    · simp

/-- The entries of variables with single options have texts as keys and as values. -/
theorem texts_singleEntries (vars : Environment) :
    ∀ e ∈ singleEntries vars, (∃ s, e.1 = .text s) ∧ ∃ s, e.2 = .text s := by
  intro e member
  obtain ⟨d, -, said⟩ := List.mem_filterMap.1 member
  obtain ⟨name, -, rfl⟩ := Option.map_eq_some_iff.1 said
  exact ⟨⟨name, rfl⟩, d.2, rfl⟩

/-- The entries that spell an option come from the variables with its name. -/
theorem filter_singleEntries {vars : Environment} (only : OnlySingles vars) (field : Field) :
    (singleEntries vars).filter (fun e => spells field e.1) =
      (vars.filter fun e => e.1 == singleName field).map fun e =>
        (.text field.key, .text e.2) := by
  induction vars with
  | nil => rfl
  | cons e r ih =>
    have rest := ih fun d member => only d (List.mem_cons_of_mem _ member)
    cases dropped : Ref.dropStart? (optionsName ++ "__") e.1 with
    | none =>
      have differ : e.1 ≠ singleName field := by
        intro same
        rw [same, dropStart?_singleName] at dropped
        cases dropped
      have front : singleEntries (e :: r) = singleEntries r := by simp [singleEntries, dropped]
      simp [front, rest, differ]
    | some name =>
      -- The variable is named for an option, which is this one or another.
      obtain ⟨g, rfl⟩ := only e List.mem_cons_self name dropped
      have named : e.1 = singleName g := Ref.dropStart?_eq_some_iff.1 dropped
      have front : singleEntries (e :: r) = (.text g.key, .text e.2) :: singleEntries r := by
        simp [singleEntries, dropped]
      by_cases same : g = field
      · subst same
        simp [front, rest, spells_key, named]
      · have unlike : spells field (.text g.key) = false := by
          rw [Bool.eq_false_iff, Ne, spells_key_iff]
          exact same
        have differ : e.1 ≠ singleName field := by
          intro equal
          rw [equal, dropStart?_singleName] at dropped
          exact same (key_inj (Option.some.inj dropped)).symm
        simp [front, rest, unlike, differ]

/-- The value of the variable with a single option. -/
def single (env : Environment) (field : Field) : Option Value :=
  (lastNamed? env (singleName field)).map .text

section Single

variable {env : Environment} (only : OnlyOptions env)
include only

theorem lowered_only : OnlySingles (lowered env) := by
  intro e member name dropped
  obtain ⟨d, inside, same⟩ := mem_lowered member
  have parts := Ref.dropStart?_eq_some_iff.1 dropped
  obtain ⟨field, -, whole⟩ := List.mem_map.1 (only d inside
    ⟨name.toList, by rw [← String.toList_append, ← parts, same]⟩)
  refine ⟨field, ?_⟩
  rw [same, ← whole, dropStart?_singleName] at dropped
  exact (Option.some.inj dropped).symm

theorem texts_singleOptions :
    ∀ e ∈ singleOptions (lowered env), (∃ s, e.1 = .text s) ∧ ∃ s, e.2 = .text s := by
  rw [singleOptions_eq (lowered_only only)]
  exact forall_insertAll (p := fun k => ∃ s, k = .text s) (q := fun v => ∃ s, v = .text s)
    (by simp) (texts_singleEntries _)

/-- What the variables with single options set about one option is its own variable. -/
theorem filter_singleOptions (field : Field) :
    (singleOptions (lowered env)).filter (fun e => spells field e.1) =
      ((single env field).map fun v => (.text field.key, v)).toList := by
  have texts := fun e member => (texts_singleEntries (lowered env) e member).1
  rw [singleOptions_eq (lowered_only only), filter_insertAll [] texts,
    filter_singleEntries (lowered_only only), filter_lowered, single]
  cases lastNamed? env (singleName field) <;> rfl

end Single

/-- What an environment says about an option, with the members of a JSON object: the last member
that spells the option. The option's own variable takes the place of the member with exactly the
option's key, or else comes last. -/
def environmentOption (env : Environment) (object : Entries) (field : Field) : Option Value :=
  lastSpelled field (match single env field with
    | none => object
    | some v => object.insert (.text field.key) v)

theorem lastSpelled_singleOptions {env : Environment} (only : OnlyOptions env) (field : Field) :
    lastSpelled field (singleOptions (lowered env)) = single env field := by
  rw [lastSpelled, filter_singleOptions only]
  cases single env field <;> rfl

/-- Without a JSON object, an option is what its own variable says. -/
theorem environmentOption_nil (env : Environment) (field : Field) :
    environmentOption env [] field = single env field := by
  unfold environmentOption
  cases single env field with
  | none => rfl
  | some v => simp [lastSpelled, Entries.insert, spells_key]

theorem lastSpelled_overlay {env : Environment} (only : OnlyOptions env) (object : Entries)
    (field : Field) :
    lastSpelled field (Layer.overlay object (singleOptions (lowered env))) =
      environmentOption env object field := by
  have texts := texts_singleOptions only
  rw [overlay_eq_insertAll object fun e member => (texts e member).2, lastSpelled,
    filter_insertAll object fun e member => (texts e member).1, filter_singleOptions only,
    environmentOption, lastSpelled]
  cases single env field with
  | none => rfl
  | some v =>
    rw [filter_insert, if_pos (spells_key field)]
    rfl

/-- The keys that spell an option do so in its own case. -/
def PlainlySpelled (field : Field) (es : Entries) : Prop :=
  ∀ e ∈ es, spells field e.1 = true → e.1 = .text field.key

theorem lastSpelled_of_plain {es : Entries} {field : Field} (distinct : Distinct es)
    (plain : PlainlySpelled field es) : lastSpelled field es = es.getText? field.key := by
  have sameFilter : (es.filter fun e => spells field e.1) =
      es.filter fun e => keyText? e.1 == some field.key := by
    refine List.filter_congr fun e member => ?_
    rw [Bool.eq_iff_iff, beq_iff_eq, keyText?_eq_some_iff]
    exact ⟨plain e member, fun same => same ▸ spells_key field⟩
  rw [lastSpelled, sameFilter]
  exact lastText?_eq_getText? distinct field.key

/-- Where the object spells an option in no other case, the option's own variable counts first, and
then the member with the option's key. -/
theorem environmentOption_plain {env : Environment} {object : Entries} {field : Field}
    (distinct : Distinct object) (plain : PlainlySpelled field object) :
    environmentOption env object field = (single env field <|> object.getText? field.key) := by
  unfold environmentOption
  cases single env field with
  | none => exact lastSpelled_of_plain distinct plain
  | some v =>
    have still : PlainlySpelled field (object.insert (.text field.key) v) := by
      refine fun e member => (forall_insert (q := fun _ => True)
        (p := fun k => spells field k = true → k = .text field.key) ?_ ?_ trivial e member).1
      · exact fun d inside => ⟨plain d inside, trivial⟩
      · exact fun _ => rfl
    show lastSpelled field _ = some v
    rw [lastSpelled_of_plain (distinct.insert _ _) still, getText?_insert_self]

/-! ### The members of a JSON object -/

/-- The members of the JSON object with options that an environment has; without the variable there
are none. -/
def Holds (env : Environment) (object : Entries) : Prop :=
  match lastNamed? env optionsName with
  | none => object = []
  | some s => Json.read s = .ok (.map object)

/-- The environment has no variable for a JSON object, or one that does hold an object. -/
def holdsObject (env : Environment) : Bool :=
  match lastNamed? env optionsName with
  | none => true
  | some s =>
    match Json.read s with
    | .ok (.map _) => true
    | _ => false

theorem holdsObject_iff {env : Environment} :
    holdsObject env = true ↔ ∃ object, Holds env object := by
  unfold holdsObject Holds
  cases lastNamed? env optionsName with
  | none => exact ⟨fun _ => ⟨[], rfl⟩, fun _ => rfl⟩
  | some s =>
    constructor
    · intro held
      simp only at held
      split at held
      · next es read => exact ⟨es, read⟩
      · cases held
    · rintro ⟨es, read⟩
      simp only at read ⊢
      rw [read]

instance (env : Environment) : Decidable (∃ object, Holds env object) :=
  decidable_of_iff _ holdsObject_iff

theorem Holds.distinct {env : Environment} {object : Entries}
    (holds : Holds env object) : Distinct object := by
  unfold Holds at holds
  split at holds
  · subst holds
    exact distinct_nil
  · exact Json.read_distinct holds

/-! ### The layer of the environment -/

/-- What a value has under the key of an option, if it is a mapping. -/
def optionOf : Option Value → Field → Option Value
  | some (.map es), field => Entries.getText? es field.key
  | _, _ => none

/-- What a layer has of an option. -/
def optionIn (es : Entries) (field : Field) : Option Value :=
  optionOf (es.getText? "publisher") field

/-- No key stands twice in a layer, nor in its mapping with the options. -/
structure Layered (es : Entries) : Prop where
  outer : Distinct es
  inner : ∀ ds, es.getText? "publisher" = some (.map ds) → Distinct ds

/-- A layer has a mapping with options or nothing at all in its place. -/
def OffersMap (es : Entries) : Prop :=
  ∀ v, es.getText? "publisher" = some v → ∃ ds, v = .map ds

/-- The layer with the given options and verbosity. -/
def layerOf (options : Option Value) (verbosity : Option String) : Entries :=
  (match options with
    | some v => [(Value.text "publisher", v)]
    | none => []) ++
  (match verbosity with
    | some s => [(Value.text "verbosity", Value.text s)]
    | none => [])

theorem getText?_layerOf_options (options : Option Value) (verbosity : Option String) :
    (layerOf options verbosity).getText? "publisher" = options := by
  cases options <;> cases verbosity <;>
    simp [layerOf, Entries.getText?, Entries.get?, Layer.sameKey_text]

theorem getText?_layerOf_verbosity (options : Option Value) (verbosity : Option String) :
    (layerOf options verbosity).getText? "verbosity" = verbosity.map .text := by
  cases options <;> cases verbosity <;>
    simp [layerOf, Entries.getText?, Entries.get?, Layer.sameKey_text]

theorem distinct_layerOf (options : Option Value) (verbosity : Option String) :
    Distinct (layerOf options verbosity) := by
  cases options <;> cases verbosity <;> simp [layerOf, Distinct, textKeys, keyText?]

/-- The layer has of each option and of the verbosity what an environment says. -/
structure Shows (env : Environment) (object es : Entries) : Prop where
  layered : Layered es
  offers : OffersMap es
  option : ∀ field, optionIn es field = environmentOption env object field
  verbosity : es.getText? "verbosity" = (lastNamed? env verbosityName).map .text

theorem shows_layerOf {env : Environment} {object : Entries} {options : Option Value}
    (shape : options = none ∨ ∃ es, options = some (.map (withOptionKeys es)))
    (means : ∀ field, optionOf options field = environmentOption env object field) :
    Shows env object (layerOf options (lastNamed? env verbosityName)) where
  layered := by
    refine ⟨distinct_layerOf _ _, fun ds found => ?_⟩
    rw [getText?_layerOf_options] at found
    rcases shape with rfl | ⟨es, rfl⟩
    · cases found
    · obtain rfl := Value.map.inj (Option.some.inj found)
      exact distinct_nil.insertAll _
  offers := by
    intro v found
    rw [getText?_layerOf_options] at found
    rcases shape with rfl | ⟨es, rfl⟩
    · cases found
    · exact ⟨_, (Option.some.inj found).symm⟩
  option := by
    intro field
    rw [optionIn, getText?_layerOf_options]
    exact means field
  verbosity := getText?_layerOf_verbosity _ _

/-- The layer of an environment with only options shows what its variables say. -/
theorem layer_shows {env : Environment} {object : Entries} (only : OnlyOptions env)
    (holds : Holds env object) : ∃ es, env.layer = .ok es ∧ Shows env object es := by
  have read : env.layer = (Environment.options (lowered env)).map fun options =>
      layerOf options (lastNamed? env verbosityName) := by
    simp only [Environment.layer, get?_lowered]
    rfl
  rw [read, Environment.options, get?_lowered]
  unfold Holds at holds
  cases named : lastNamed? env optionsName with
  | none =>
    rw [named] at holds
    subst holds
    refine ⟨_, rfl, shows_layerOf ?_ fun field => ?_⟩
    · split
      · exact .inl rfl
      · exact .inr ⟨_, rfl⟩
    · rw [environmentOption_nil, ← lastSpelled_singleOptions only]
      split
      · next empty =>
        rw [List.isEmpty_iff.1 empty]
        rfl
      · exact getText?_withOptionKeys _ field
  | some s =>
    simp only [named] at holds
    simp only [holds]
    refine ⟨_, rfl, shows_layerOf (.inr ⟨_, rfl⟩) fun field => ?_⟩
    rw [← lastSpelled_overlay only]
    exact getText?_withOptionKeys _ field

end ReleaseRefs.Proofs.Config
