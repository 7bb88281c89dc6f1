import ReleaseRefs.Proofs.Config.Entries
import ReleaseRefs.Proofs.Yaml.Flaws
import ReleaseRefs.Yaml.Content

/-!
# `ReleaseRefs.Proofs.Yaml.Building`: the value of a document

Building the value of a document goes on with `Yields` of `ReleaseRefs.Proofs.Yaml.Flaws`: it fails
in no other way than reading does. Besides, the mappings that it builds have each text as a key
once, on which all later look-ups rely.

- `Builds` says so of one step of building: what was built well (`Good`) stays so.
- `values_keyed`: the mappings of a value that is put together from well built data are `Keyed`.
- `read_keyed`: both facts about reading a whole text.
-/

set_option autoImplicit false

namespace ReleaseRefs.Proofs.Yaml

open ReleaseRefs.Yaml
open ReleaseRefs.Proofs.Config (Distinct textKeys keyText?)

/-! ### Scalars -/

/-- The value is no mapping. -/
def IsFlat (v : Value) : Prop := ∀ es, v ≠ .map es

attribute [local grind =] OfReading isReadingKind Scalar.fault

theorem truth_flat (s : String) : Yields IsFlat (Scalar.truth s) := by
  grind [Scalar.truth, IsFlat]

theorem inBase_reads (base : Nat) (cs : List Char) : Reads (Scalar.inBase base cs) := by
  grind [Scalar.inBase]

theorem inTen_reads (cs : List Char) : Reads (Scalar.inTen cs) := by grind [Scalar.inTen]

theorem unsigned_reads (cs : List Char) : Reads (Scalar.unsigned cs) := by
  unfold Scalar.unsigned
  split
  · exact (rfl : isReadingKind .index = true)
  · trivial
  · exact inBase_reads 2 _
  · exact inBase_reads 16 _
  · exact inBase_reads 8 _
  · split
    · exact (yields_map _).2 (Yields.mapM inTen_reads _).reads
    · exact inTen_reads _

theorem integer_flat (s : String) : Yields IsFlat (Scalar.integer s) := by
  unfold Scalar.integer
  split
  · exact (rfl : isReadingKind .index = true)
  · exact (yields_map _).2 ((unsigned_reads _).mono fun _ _ => nofun)

theorem decimal_reads (cs : List Char) : Reads (Scalar.decimal cs) := by grind [Scalar.decimal]

theorem floatSum_reads (base : Int) (sum : Binary64) (ds : List Binary64) :
    Reads (Scalar.floatSum base sum ds) := by
  fun_induction Scalar.floatSum base sum ds <;> grind

theorem unsignedFloat_reads (cs : List Char) : Reads (Scalar.unsignedFloat cs) := by
  unfold Scalar.unsignedFloat
  refine yields_ite trivial (yields_ite trivial (yields_ite ?_ (decimal_reads cs)))
  exact (Yields.mapM decimal_reads _).bind fun ds _ => floatSum_reads _ _ _

theorem float_flat (s : String) : Yields IsFlat (Scalar.float s) := by
  unfold Scalar.float
  split
  · exact (rfl : isReadingKind .index = true)
  · exact (yields_map _).2 ((unsignedFloat_reads _).mono fun _ _ => nofun)

theorem time_flat (s : String) : Yields IsFlat (Scalar.time s) := by
  grind [Scalar.time, IsFlat]

theorem binary_flat (s : String) : Yields IsFlat (Scalar.binary s) := by
  grind [Scalar.binary, IsFlat]

theorem scalarTextWithin_reads (g : Graph) (fuel : Nat) (n : NodeId) :
    Reads (g.scalarTextWithin fuel n) := by
  fun_induction g.scalarTextWithin fuel n <;> grind

theorem scalarText_reads (g : Graph) (n : NodeId) : Reads (g.scalarText n) :=
  scalarTextWithin_reads g _ n

/-- A scalar stands for no mapping. -/
theorem readScalar_flat (g : Graph) (n : NodeId) (kind : String) :
    Yields IsFlat (Builder.readScalar g n kind) := by
  have text := scalarText_reads g n
  unfold Builder.readScalar
  split
  · exact (yields_map _).2 (text.mono fun _ _ => nofun)
  · exact text.bind fun s _ => truth_flat s
  · exact text.bind fun s _ => integer_flat s
  · exact text.bind fun s _ => float_flat s
  · exact text.bind fun s _ => binary_flat s
  · refine text.bind fun s _ => ?_
    split
    · exact time_flat s
    · exact (rfl : isReadingKind .type = true)
  · exact (yields_map _).2 (text.mono fun _ _ => nofun)
  · exact yields_flaw _

/-! ### Merging -/

theorem merge_reads (g : Graph) (n : NodeId) : Reads (g.merge n) := by
  have both (fuel : Nat) :
      (∀ n place found g, Reads (Graph.mergeFrom n place found fuel g)) ∧
        ∀ ns g, Reads (Graph.mergeRows ns fuel g) := by
    induction fuel with
    | zero => exact ⟨fun _ _ _ _ => yields_flaw _, fun ns _ => by cases ns <;> exact yields_flaw _⟩
    | succ fuel ih =>
      constructor
      · intro n place found g
        unfold Graph.mergeFrom
        split
        · trivial
        · refine yields_ite ?_ (yields_ite (ih.1 _ _ _ _) (ih.1 _ _ _ _))
          simp only
          split
          · exact (ih.1 _ _ _ _).bind fun g _ => ih.1 _ _ _ _
          · exact (ih.2 _ _).bind fun r _ => ih.1 _ _ _ _
          · exact yields_flaw _
      · intro ns g
        cases ns with
        | nil => trivial
        | cons m ms =>
          unfold Graph.mergeRows
          split
          · refine (ih.1 _ _ _ _).bind fun g _ => ?_
            exact (ih.2 _ _).bind fun r _ => trivial
          · exact yields_flaw _
  exact (both _).1 n 0 [] g

/-! ### Data -/

/-- A datum that stands for itself is no mapping. -/
def IsFlatDatum : Datum → Prop
  | .plain v => IsFlat v
  | .collection _ => True

/-- A mapping is filled with no key twice, and with no other mapping that is whole already. -/
structure FilledWell (es : List (Key × Datum)) : Prop where
  distinct : (es.map Prod.fst).Pairwise fun k l => k.same l = false
  flat : ∀ e ∈ es, IsFlatDatum e.2

/-- What was built so far is built well. -/
structure Good (b : Builder) : Prop where
  data : ∀ (n : NodeId) (d : Datum), b.data[n]? = some (some d) → IsFlatDatum d
  fillings : ∀ (n : NodeId) (es : List (Key × Datum)),
    b.fillings[n]? = some (some (.map es)) → FilledWell es

/-- A step of building keeps what is built well and gives something that has a property, or fails
as reading does. -/
def Builds {α : Type} (p : α → Prop) (x : Build α) : Prop :=
  ∀ b, Good b → Yields (fun r => p r.1 ∧ Good r.2) (x b)

section Builds

variable {α β : Type} {p : α → Prop} {q : β → Prop}

theorem Builds.pure {a : α} (h : p a) : Builds p (pure a) := fun _ good => ⟨h, good⟩

theorem Builds.bind {x : Build α} {f : α → Build β} (first : Builds p x)
    (rest : ∀ a, p a → Builds q (f a)) : Builds q (x >>= f) :=
  fun b good => (first b good).bind fun r after => rest r.1 after.1 r.2 after.2

theorem Builds.flaw (m : String) : Builds p (throw (flaw m) : Build α) := fun _ _ => yields_flaw m

theorem builds_get : Builds Good (get : Build Builder) := fun _ good => ⟨good, good⟩

theorem builds_set {b : Builder} (good : Good b) : Builds (fun _ => True) (set b : Build PUnit) :=
  fun _ _ => ⟨trivial, good⟩

theorem Builds.lift {x : Except Failure α} (h : Yields p x) : Builds p (liftM x : Build α) := by
  intro b good
  cases x with
  | ok a => exact ⟨h, good⟩
  | error e => exact h

theorem Builds.mapM {f : α → Build β} (each : ∀ a, Builds q (f a)) (xs : List α) :
    Builds (fun _ => True) (xs.mapM f) := by
  induction xs with
  | nil => exact Builds.pure trivial
  | cons x xs ih =>
    rw [List.mapM_cons]
    exact (each x).bind fun y _ => ih.bind fun ys _ => Builds.pure trivial

theorem Builds.foldlM {f : β → α → Build β} (step : ∀ b a, q b → Builds q (f b a)) {b : β}
    (start : q b) (xs : List α) : Builds q (xs.foldlM f b) := by
  induction xs generalizing b with
  | nil => exact Builds.pure start
  | cons x xs ih =>
    rw [List.foldlM_cons]
    exact (step b x start).bind fun c next => ih next

end Builds

theorem Good.keep {b : Builder} (good : Good b) (n : NodeId) {d : Datum} (flat : IsFlatDatum d) :
    Good (b.keep n d) where
  data := by
    intro m e found
    simp only [Builder.keep, Array.getElem?_setIfInBounds] at found
    split at found
    · split at found
      · cases found
        exact flat
      · cases found
    · exact good.data m e found
  fillings := good.fillings

theorem Good.await {b : Builder} (good : Good b) (n : NodeId) : Good (b.await n) :=
  ⟨good.data, good.fillings⟩

theorem build_builds (n : NodeId) : Builds IsFlatDatum (Builder.build n) := by
  intro b good
  unfold Builder.build
  split
  · next d found => exact ⟨good.data n d found, good⟩
  · split
    · exact yields_flaw _
    · split
      · exact ⟨trivial, (good.keep (d := .collection n) n trivial).await n⟩
      · refine (yields_map _).2 ((readScalar_flat _ _ _).mono fun v flat => ?_)
        exact ⟨flat, good.keep n flat⟩

theorem buildKey_builds (n : NodeId) : Builds (fun _ => True) (Builder.buildKey n) := by
  refine (build_builds n).bind fun d _ => ?_
  split
  · exact Builds.flaw _
  · exact builds_get.bind fun b _ => Builds.pure trivial

/-- Setting a key that is new puts it behind the others, and otherwise the keys stay. -/
theorem keys_insert (es : List (Key × Datum)) (k : Key) (d : Datum) :
    (Builder.insert es k d).map Prod.fst = es.map Prod.fst ∨
      (∀ l ∈ es.map Prod.fst, l.same k = false) ∧
        (Builder.insert es k d).map Prod.fst = es.map Prod.fst ++ [k] := by
  induction es with
  | nil => exact .inr ⟨by simp, rfl⟩
  | cons e r ih =>
    obtain ⟨l, v⟩ := e
    rw [Builder.insert]
    split
    · exact .inl rfl
    · next differ =>
      rcases ih with same | ⟨fresh, added⟩
      · exact .inl (congrArg (l :: ·) same)
      · refine .inr ⟨?_, congrArg (l :: ·) added⟩
        exact List.forall_mem_cons.2 ⟨Bool.eq_false_iff.2 differ, fresh⟩

theorem mem_insert {es : List (Key × Datum)} {k : Key} {d : Datum} {e : Key × Datum}
    (member : e ∈ Builder.insert es k d) : e.2 = d ∨ e ∈ es := by
  induction es with
  | nil =>
    obtain rfl := List.mem_singleton.1 member
    exact .inl rfl
  | cons c r ih =>
    rw [Builder.insert] at member
    split at member
    · rcases List.mem_cons.1 member with rfl | member
      · exact .inl rfl
      · exact .inr (List.mem_cons_of_mem _ member)
    · rcases List.mem_cons.1 member with rfl | member
      · exact .inr List.mem_cons_self
      · exact (ih member).imp_right (List.mem_cons_of_mem _)

theorem FilledWell.insert {es : List (Key × Datum)} (well : FilledWell es) (k : Key) {d : Datum}
    (flat : IsFlatDatum d) : FilledWell (Builder.insert es k d) where
  distinct := by
    rcases keys_insert es k d with same | ⟨fresh, added⟩
    · exact same ▸ well.distinct
    · rw [added, List.pairwise_append]
      exact ⟨well.distinct, List.pairwise_singleton _ _, fun l member m last =>
        List.mem_singleton.1 last ▸ fresh l member⟩
  flat := by
    intro e member
    rcases mem_insert member with same | before
    · exact same ▸ flat
    · exact well.flat e before

theorem buildEntries_builds (n : NodeId) : Builds FilledWell (Builder.buildEntries n) := by
  refine builds_get.bind fun b good => ?_
  split
  · refine (Builds.lift (merge_reads b.graph n)).bind fun g _ => ?_
    refine (builds_set (b := { b with graph := g }) ⟨good.data, good.fillings⟩).bind fun _ _ => ?_
    refine Builds.foldlM (fun es e well => ?_) ⟨.nil, by simp⟩ _
    refine (buildKey_builds e.1).bind fun key _ => ?_
    exact (build_builds e.2).bind fun datum flat => Builds.pure (well.insert key flat)
  · exact Builds.flaw _

theorem buildItems_builds (n : NodeId) : Builds (fun _ => True) (Builder.buildItems n) := by
  refine builds_get.bind fun b _ => ?_
  split
  · exact Builds.mapM build_builds _
  · exact Builds.flaw _

theorem buildPair_builds (n : NodeId) : Builds (fun _ => True) (Builder.buildPair n) := by
  refine builds_get.bind fun b _ => ?_
  split
  · refine (build_builds _).bind fun key _ => ?_
    exact (build_builds _).bind fun value _ => Builds.pure trivial
  · exact Builds.flaw _

theorem buildPairs_builds (n : NodeId) : Builds (fun _ => True) (Builder.buildPairs n) := by
  refine builds_get.bind fun b _ => ?_
  split
  · exact Builds.mapM buildPair_builds _
  · exact Builds.flaw _

theorem filling_builds (n : NodeId) :
    Builds (fun f => ∀ es, f = .map es → FilledWell es) (Builder.filling n) := by
  refine builds_get.bind fun b _ => ?_
  split
  · exact (buildItems_builds n).bind fun xs _ => Builds.pure nofun
  · refine (buildEntries_builds n).bind fun es well => Builds.pure ?_
    rintro _ same
    cases same
    exact well
  · exact (buildEntries_builds n).bind fun es _ => Builds.pure nofun
  · exact (buildPairs_builds n).bind fun xs _ => Builds.pure nofun

theorem fill_builds (n : NodeId) : Builds (fun _ => True) (Builder.fill n) := by
  refine (filling_builds n).bind fun f well => ?_
  intro b good
  refine ⟨trivial, good.data, fun m es found => ?_⟩
  simp only [Array.getElem?_setIfInBounds] at found
  split at found
  · split at found
    · cases found
      exact well es rfl
    · cases found
  · exact good.fillings m es found

theorem finish_builds (fuel : Nat) : Builds (fun _ => True) (Builder.finish fuel) := by
  induction fuel with
  | zero => exact Builds.pure trivial
  | succ fuel ih =>
    refine builds_get.bind fun b good => ?_
    split
    · exact Builds.pure trivial
    · refine (builds_set (b := { b with waiting := #[] }) ⟨good.data, good.fillings⟩).bind
        fun _ _ => ?_
      refine Builds.bind (p := fun _ => True) ?_ fun _ _ => ih
      generalize b.waiting.toList = ns
      induction ns with
      | nil => exact Builds.pure trivial
      | cons n ns rest =>
        rw [List.forM_eq_forM, List.forM_cons]
        exact (fill_builds n).bind fun _ _ => rest

/-! ### Values -/

/-- No text is a key twice in a mapping, nor in the mappings right inside it. -/
def Keyed (v : Value) : Prop :=
  ∀ es, v = .map es → Distinct es ∧ ∀ e ∈ es, ∀ ds, e.2 = .map ds → Distinct ds

theorem IsFlat.keyed {v : Value} (flat : IsFlat v) : Keyed v := fun es same => absurd same (flat es)

/-- Keys that are not the same have different texts. -/
theorem distinct_keys {ks : List Key} (distinct : ks.Pairwise fun k l => k.same l = false) :
    (ks.filterMap fun k => keyText? k.value).Nodup := by
  rw [List.Nodup, List.pairwise_filterMap]
  refine distinct.imp fun {k l} differ s first t second => ?_
  rintro rfl
  rw [Config.keyText?_eq_some_iff] at first second
  simp [Key.same, first, second, Value.sameKey] at differ

theorem textKeys_zip (ks vs : List Value) :
    (textKeys (ks.zip vs)).Sublist (ks.filterMap keyText?) := by
  induction ks generalizing vs with
  | nil => exact List.nil_sublist _
  | cons k ks ih =>
    cases vs with
    | nil => exact List.nil_sublist _
    | cons v vs =>
      rw [List.zip_cons_cons, textKeys, List.filterMap_cons, List.filterMap_cons]
      cases keyText? k with
      | none => exact ih vs
      | some s => exact (ih vs).cons_cons s

theorem keyed_map {es : List (Key × Datum)} (well : FilledWell es) {vs : List Value}
    (keyed : ∀ v ∈ vs, Keyed v) : Keyed (.map ((es.map fun e => e.1.value).zip vs)) := by
  rintro _ same
  cases same
  constructor
  · have texts := distinct_keys well.distinct
    rw [List.filterMap_map] at texts
    refine List.Nodup.sublist (textKeys_zip _ vs) ?_
    rw [List.filterMap_map]
    exact texts
  · intro e member ds same
    exact (keyed e.2 (List.of_mem_zip member).2 ds same).1

/-- The values that are known are keyed. -/
def KnownKeyed (known : Builder.Known) : Prop :=
  ∀ (n : NodeId) (v : Value), known[n]? = some (some v) → Keyed v

theorem KnownKeyed.set {known : Builder.Known} (keyed : KnownKeyed known) (n : NodeId) {v : Value}
    (also : Keyed v) : KnownKeyed (known.setIfInBounds n (some v)) := by
  intro m w found
  simp only [Array.getElem?_setIfInBounds] at found
  split at found
  · split at found
    · cases found
      exact also
    · cases found
  · exact keyed m w found

/-- The filling of a mapping is one that was built. -/
theorem Good.filling {b : Builder} (good : Good b) {n : NodeId} {es : List (Key × Datum)}
    (found : ((b.fillings[n]?).getD none).getD (.list []) = .map es) : FilledWell es := by
  cases filled : b.fillings[n]? with
  | none => simp [filled] at found
  | some f =>
    cases f with
    | none => simp [filled] at found
    | some f =>
      simp only [filled, Option.getD_some] at found
      exact good.fillings n es (found ▸ filled)

/-- With some fuel, the value of a datum is keyed if it is flat where the datum is, and only keyed
values become known. -/
def ValueKeyed (b : Builder) (fuel : Nat) : Prop :=
  ∀ around d known, KnownKeyed known → KnownKeyed (b.valueOf around fuel d known).2 ∧
    (IsFlatDatum d → Keyed (b.valueOf around fuel d known).1.value)

/-- The same of a row of data. -/
def ValuesKeyed (b : Builder) (fuel : Nat) : Prop :=
  ∀ around ds known, KnownKeyed known → KnownKeyed (b.valuesOf around fuel ds known).2.2 ∧
    ((∀ d ∈ ds, IsFlatDatum d) → ∀ v ∈ (b.valuesOf around fuel ds known).1, Keyed v)

/-- A collection that is whole is known from then on. -/
theorem KnownKeyed.close {known : Builder.Known} (keyed : KnownKeyed known) (n : NodeId) {v : Value}
    (value : Keyed v) (whole : Bool) :
    let r : Builder.Found × Builder.Known := (⟨v, whole⟩, known)
    let after := if r.1.isWhole then (r.1, r.2.setIfInBounds n (some r.1.value)) else r
    KnownKeyed after.2 ∧ (IsFlatDatum (.collection n) → Keyed after.1.value) := by
  intro r after
  simp only [after, r]
  split
  · exact ⟨keyed.set n value, fun _ => value⟩
  · exact ⟨keyed, fun _ => value⟩

theorem valueOf_keyed {b : Builder} (good : Good b) {fuel : Nat} (many : ValuesKeyed b fuel) :
    ValueKeyed b (fuel + 1) := by
  intro around d known keyed
  cases d with
  | plain v => exact ⟨keyed, fun flat => flat.keyed⟩
  | collection n =>
    unfold Builder.valueOf
    split
    · next v found => exact ⟨keyed, fun _ => keyed n v found⟩
    · simp only
      -- A collection inside itself stands for itself, and is no mapping that is written out.
      cases filling : ((b.fillings[n]?).getD none).getD (.list []) with
      | set ks =>
        simp only
        split
        · exact ⟨keyed, fun _ => nofun⟩
        · rw [if_pos trivial]
          exact ⟨keyed.set n nofun, fun _ => nofun⟩
      | list xs =>
        simp only
        split
        · exact ⟨keyed, fun _ => nofun⟩
        · exact (many _ xs known keyed).1.close n (v := .list _) nofun _
      | pairs xs =>
        simp only
        split
        · exact ⟨keyed, fun _ => nofun⟩
        · exact (many _ _ _ (many _ _ known keyed).1).1.close n (v := .list _) nofun _
      | map es =>
        have well := good.filling filling
        have values := many (n :: around) (es.map Prod.snd) known keyed
        simp only
        split
        · exact ⟨keyed, fun _ => nofun⟩
        · refine values.1.close n (keyed_map well (values.2 ?_)) _
          exact List.forall_mem_map.2 well.flat

theorem valuesOf_keyed {b : Builder} {fuel : Nat} (one : ValueKeyed b fuel)
    (many : ValuesKeyed b fuel) : ValuesKeyed b (fuel + 1) := by
  intro around ds known keyed
  cases ds with
  | nil => exact ⟨keyed, fun _ => nofun⟩
  | cons d ds =>
    unfold Builder.valuesOf
    have first := one around d known keyed
    have rest := many around ds _ first.1
    refine ⟨rest.1, fun flat => List.forall_mem_cons.2 ⟨?_, ?_⟩⟩
    · exact first.2 (flat d List.mem_cons_self)
    · exact rest.2 fun e member => flat e (List.mem_cons_of_mem _ member)

theorem values_keyed {b : Builder} (good : Good b) (fuel : Nat) :
    ValueKeyed b fuel ∧ ValuesKeyed b fuel := by
  induction fuel with
  | zero =>
    constructor
    · intro around d known keyed
      cases d with
      | plain v => exact ⟨keyed, fun flat => flat.keyed⟩
      | collection n => exact ⟨keyed, fun _ => nofun⟩
    · intro around ds known keyed
      cases ds <;> exact ⟨keyed, fun _ => nofun⟩
  | succ fuel ih =>
    obtain ⟨one, many⟩ := ih
    exact ⟨valueOf_keyed good many, valuesOf_keyed one many⟩

theorem good_start (g : Graph) : Good (.start g) where
  data := by
    intro n d found
    simp [Builder.start, Array.getElem?_replicate] at found
  fillings := by
    intro n es found
    simp [Builder.start, Array.getElem?_replicate] at found

theorem content_keyed (d : Document) : Yields Keyed d.content := by
  refine (build_builds d.root _ (good_start d.graph)).bind fun r built => ?_
  refine (finish_builds _ r.2 built.2).bind fun after filled => ?_
  have none_known : KnownKeyed (Array.replicate after.2.fillings.size none) := by
    intro n v found
    simp [Array.getElem?_replicate] at found
  exact ((values_keyed filled.2 _).1 [] r.1 _ none_known).2 built.1

/-- Reading a text gives a value whose mappings have each text as a key once, or it fails in one of
the ways that reading has. -/
theorem read_keyed (s : String) : Yields Keyed (Yaml.read s) := by
  unfold Yaml.read
  refine yields_ite (yields_flaw _) ?_
  have nodes : Reads (Document.ofTokens (Token.stream s.toList).1 (Token.stream s.toList).2) :=
    ofTokens_reads fun _ stopped => run_stop stopped
  simp only
  split
  · next e failed => exact nodes.error failed
  · exact nofun
  · exact content_keyed _

end ReleaseRefs.Proofs.Yaml
