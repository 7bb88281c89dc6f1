import ReleaseRefs.Git.Repository

/-!
# `ReleaseRefs.Proofs.Git.Listing`: reading what git prints

Git prints tags and refs of a remote one a line, and the repository cuts the lines out again. This
module says what is lost on the way.

- `Plain` says that a text has no white space, and `Prints` that lines were printed.
  `splitAt_of_prints`: cutting at line feeds gives the lines back.
- `strippedNames` are names without white space at their ends, and these are the names of a printed
  list (`namesIn_of_prints`). `strippedNames_eq_self_iff` says when nothing is lost, and
  `mem_namesIn` that nothing is lost of plain names.
- `Line` is a line of a listing of refs, with its text and the ref that it stands for.
  `listingHas_lines_iff`: a printed listing has a ref exactly if one of its lines is a row for that
  very ref. A row for another ref counts for nothing, even if it ends in the same parts.
-/

set_option autoImplicit false

namespace ReleaseRefs.Proofs.Git

open ReleaseRefs.Git

/-! ### What is printed -/

/-- Text without white space. -/
def Plain (s : String) : Prop := ∀ c ∈ s.toList, Text.isBlank c = false

-- Not by inference: an instance that goes through all characters would be found as well.
instance : DecidablePred Plain := fun s =>
  List.decidableBAll (fun c => Text.isBlank c = false) s.toList

/-- Text that was printed is the lines. The line feed behind the last one may have been dropped. -/
def Prints (out : String) (lines : List String) : Prop :=
  out = "\n".intercalate lines ∨ out = "\n".intercalate lines ++ "\n"

/-- A plain text has no character that is blank. -/
theorem Plain.not_mem {s : String} (plain : Plain s) {c : Char} (blank : Text.isBlank c = true) :
    c ∉ s.toList := by
  intro member
  rw [plain c member] at blank
  cases blank

theorem Plain.fullRef {name : String} (plain : Plain name) (kind : Ref.Kind) :
    Plain (kind.fullRef name) := by
  have front : Plain kind.namespaceOf := by cases kind <;> decide
  intro c member
  rw [Ref.Kind.fullRef, String.toList_append, List.mem_append] at member
  exact member.elim (front c) (plain c)

/-- Cutting the lines of a text out gives just the lines, and behind them perhaps empty ones. -/
theorem splitAt_of_prints {out : String} {lines : List String} (prints : Prints out lines)
    (whole : ∀ line ∈ lines, '\n' ∉ line.toList) :
    ∃ count, Text.splitAt '\n' out.toList
      = lines.map String.toList ++ List.replicate count [] := by
  have joined : ∃ count, Text.splitAt '\n' ("\n".intercalate lines).toList
      = lines.map String.toList ++ List.replicate count [] := by
    cases lines with
    | nil => exact ⟨1, rfl⟩
    | cons line lines =>
      refine ⟨0, ?_⟩
      rw [String.toList_intercalate, List.map_cons, List.replicate_zero, List.append_nil]
      exact Text.splitAt_intercalate (by simpa using whole)
  rcases prints with rfl | rfl
  · exact joined
  · -- The line feed at the end only adds an empty line.
    obtain ⟨count, cut⟩ := joined
    refine ⟨count + 1, ?_⟩
    rw [String.toList_append]
    show Text.splitAt '\n' (_ ++ ['\n']) = _
    rw [Text.splitAt_append_sep, cut, List.append_assoc, List.replicate_succ']

/-! ### Lists of names -/

/-- What is left of names without white space at their ends. -/
def strippedNames (names : List String) : List String :=
  (names.map Text.strip).filter fun name => !name.isEmpty

/-- Stripping changes no name exactly if none has white space at its ends. -/
theorem map_strip_eq_self_iff {names : List String} :
    names.map Text.strip = names ↔ ∀ name ∈ names, Text.Trimmed name.toList := by
  constructor
  · intro same name member
    have fixed := List.map_eq_map_iff.1 (same.trans (List.map_id' names).symm) name member
    exact Text.strip_eq_self_iff.1 fixed
  · intro trimmed
    rw [List.map_congr_left fun name member => Text.strip_eq_self_iff.2 (trimmed name member),
      List.map_id']

/-- All names stay as they are exactly if none is empty or has white space at its ends. -/
theorem strippedNames_eq_self_iff {names : List String} :
    strippedNames names = names ↔ ∀ name ∈ names, name ≠ "" ∧ Text.Trimmed name.toList := by
  constructor
  · intro same
    -- As nothing was left out, nothing was changed either.
    have all : strippedNames names = names.map Text.strip := by
      refine List.filter_sublist.eq_of_length ?_
      rw [List.length_map]
      exact congrArg List.length same
    have trimmed := map_strip_eq_self_iff.1 (all.symm.trans same)
    refine fun name member => ⟨?_, trimmed name member⟩
    rw [← same] at member
    simpa using (List.mem_filter.1 member).2
  · intro sound
    have kept := map_strip_eq_self_iff.2 fun name member => (sound name member).2
    rw [strippedNames, kept, List.filter_eq_self]
    exact fun name member => by simpa using (sound name member).1

/-- A name that is not empty is left exactly if it is one of them without white space. -/
theorem mem_strippedNames (names : List String) {name : String} (nonempty : name ≠ "") :
    name ∈ strippedNames names ↔ name ∈ names.map Text.strip := by
  rw [strippedNames, List.mem_filter]
  exact and_iff_left (by simpa using nonempty)

/-- The names in a printed list are what is left of its lines. -/
theorem namesIn_of_prints {out : String} {lines : List String} (prints : Prints out lines)
    (whole : ∀ line ∈ lines, '\n' ∉ line.toList) :
    Repository.namesIn out = strippedNames lines := by
  obtain ⟨count, cut⟩ := splitAt_of_prints prints whole
  have texts : Text.lines out = lines ++ List.replicate count "" := by
    rw [Text.lines, cut, List.map_append, List.map_map, List.map_replicate]
    simp [Function.comp_def]
  -- Of the empty lines nothing is left.
  have nothing : strippedNames (List.replicate count "") = [] := by
    simp [strippedNames, Text.strip, Text.stripChars, Text.stripWhere]
  rw [Repository.namesIn, texts, List.map_append, List.filter_append]
  exact (congrArg (strippedNames lines ++ ·) nothing).trans (List.append_nil _)

/-- The names in a printed list are the names that were printed. -/
theorem mem_namesIn {out name : String} {names : List String} (prints : Prints out names)
    (plain : ∀ n ∈ names, Plain n) (some : name ≠ "") :
    name ∈ Repository.namesIn out ↔ name ∈ names := by
  have whole : ∀ n ∈ names, '\n' ∉ n.toList := fun n member => (plain n member).not_mem (by decide)
  have kept := map_strip_eq_self_iff.2 fun n member => .of_plain (plain n member)
  rw [namesIn_of_prints prints whole, mem_strippedNames names some, kept]

/-! ### Listings of refs -/

/-- A line of a listing: a row for a ref, perhaps with a carriage return behind it, or something
else. -/
inductive Line where
  | row (oid ref : String) (returned : Bool)
  | other (text : String)

namespace Line

/-- The line as it is printed. -/
def text : Line → String
  | .row oid ref returned => oid ++ "\t" ++ ref ++ (if returned then "\r" else "")
  | .other text => text

/-- The ref that the line is a row for. -/
def ref? : Line → Option String
  | .row _ ref _ => some ref
  | .other _ => none

/-- No part of the line has a tab or a line feed, and a ref has no white space at its ends. -/
def Sound : Line → Prop
  | .row oid ref _ => (∀ c ∈ ['\t', '\n'], c ∉ oid.toList ∧ c ∉ ref.toList) ∧
      Text.Trimmed ref.toList
  | .other text => ∀ c ∈ ['\t', '\n'], c ∉ text.toList

instance : DecidablePred Sound
  | .row oid ref _ => @instDecidableAnd _ _
      (List.decidableBAll (fun c => c ∉ oid.toList ∧ c ∉ ref.toList) ['\t', '\n'])
      (inferInstanceAs (Decidable (Text.Trimmed ref.toList)))
  | .other text => List.decidableBAll (fun c => c ∉ text.toList) ['\t', '\n']

/-- A sound line is one line. -/
theorem Sound.whole {line : Line} (sound : line.Sound) : '\n' ∉ line.text.toList := by
  cases line with
  | row oid ref returned =>
    obtain ⟨oid', ref'⟩ := sound.1 '\n' (by simp)
    cases returned <;> simp [text, oid', ref']
  | other t => exact sound '\n' (by simp)

/-- What stands behind the tab of a row is the ref, once white space is dropped. -/
theorem stripChars_ref {ref : String} (trimmed : Text.Trimmed ref.toList) (returned : Bool) :
    Text.stripChars (ref ++ if returned then "\r" else "").toList = ref.toList := by
  rw [String.toList_append]
  by_cases empty : ref.toList = []
  · rw [empty]
    cases returned <;> decide
  · rw [Text.stripChars_append trimmed empty]
    cases returned <;> simp [Text.stripEnd, show Text.isBlank '\r' = true by decide]

/-- A sound line is found to be for a ref exactly if it is a row for that very ref. -/
theorem Sound.lists_iff {line : Line} (sound : line.Sound) (ref : String) :
    Repository.lists ref line.text.toList = true ↔ line.ref? = some ref := by
  cases line with
  | row oid name returned =>
    obtain ⟨oid', name'⟩ := sound.1 '\t' (by simp)
    have behind : '\t' ∉ (name ++ if returned then "\r" else "").toList := by
      cases returned <;> simp [name']
    have cells : (Line.row oid name returned).text.toList
        = oid.toList ++ '\t' :: (name ++ if returned then "\r" else "").toList := by
      simp [text]
    rw [cells, Repository.lists, Text.splitAt_append_cons oid', Text.splitAt_of_not_mem behind]
    simp only [stripChars_ref sound.2, beq_iff_eq, String.toList_inj, ref?, Option.some.injEq]
  | other t =>
    have cells : Text.splitAt '\t' t.toList = [t.toList] :=
      Text.splitAt_of_not_mem (sound '\t' (by simp))
    simp [Repository.lists, text, ref?, cells]

end Line

/-- A printed listing has a ref exactly if one of its lines is a row for that very ref. -/
theorem listingHas_lines_iff {out : String} {lines : List Line}
    (prints : Prints out (lines.map Line.text)) (sound : ∀ line ∈ lines, line.Sound)
    (ref : String) :
    Repository.listingHas out ref = true ↔ ref ∈ lines.filterMap Line.ref? := by
  have whole : ∀ text ∈ lines.map Line.text, '\n' ∉ text.toList :=
    List.forall_mem_map.2 fun line member => (sound line member).whole
  obtain ⟨count, cut⟩ := splitAt_of_prints prints whole
  have nothing : (List.replicate count []).any (Repository.lists ref) = false := by
    rw [List.any_replicate]
    split <;> rfl
  rw [Repository.listingHas, cut, List.any_append, nothing, Bool.or_false, List.map_map,
    List.any_map, List.any_eq_true, List.mem_filterMap]
  exact exists_congr fun line => and_congr_right fun member => (sound line member).lists_iff ref

/-- A listing of plain rows has a ref exactly if one of them is for that very ref. -/
theorem listingHas_iff {out ref : String} {rows : List String} {oid : String → String}
    (prints : Prints out (rows.map fun r => oid r ++ "\t" ++ r)) (plainOid : ∀ r, Plain (oid r))
    (plain : ∀ r ∈ rows, Plain r) : Repository.listingHas out ref = true ↔ ref ∈ rows := by
  let line (r : String) : Line := .row (oid r) r false
  have texts : (rows.map line).map Line.text = rows.map fun r => oid r ++ "\t" ++ r := by
    rw [List.map_map]
    exact List.map_congr_left fun r _ => String.append_empty
  have sound : ∀ l ∈ rows.map line, l.Sound := by
    have blank : ∀ c ∈ ['\t', '\n'], Text.isBlank c = true := List.all_eq_true.1 (by decide)
    exact List.forall_mem_map.2 fun r member => ⟨fun c edge =>
      ⟨(plainOid r).not_mem (blank c edge), (plain r member).not_mem (blank c edge)⟩,
      .of_plain (plain r member)⟩
  rw [listingHas_lines_iff (texts ▸ prints) sound, List.filterMap_map]
  simp [line, Line.ref?, Function.comp_def]

end ReleaseRefs.Proofs.Git
