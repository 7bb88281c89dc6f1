/-!
# `ReleaseRefs.Text.Split`: cutting text at separators

- `splitAt` cuts at every occurrence of a character, `splitOnce` at the first one.
- `splitOnce_append`: cutting once loses nothing but the separator, and `splitOnce_append_cons`: the
  cut is made at the first one.
- `splitAt_append`: a separator between two texts keeps their parts apart.
- `intercalate_splitAt`: joining all parts with the separator gives the text back, and
  `splitAt_intercalate`: cutting joined parts gives the parts back.
- `contains` looks for one text inside another (`containsChars_iff`).
-/

set_option autoImplicit false

namespace ReleaseRefs.Text

/-- Cuts characters at every occurrence of a separator, which belongs to no part. -/
def splitAt (sep : Char) : List Char → List (List Char)
  | [] => [[]]
  | c :: r =>
    if c = sep then [] :: splitAt sep r
    else
      match splitAt sep r with
      | [] => [[c]]
      | part :: rest => (c :: part) :: rest

/-- Cuts characters at the first occurrence of a separator, which belongs to neither part. -/
def splitOnce (sep : Char) : List Char → List Char × Option (List Char)
  | [] => ([], none)
  | c :: r =>
    if c = sep then ([], some r)
    else
      let s := splitOnce sep r
      (c :: s.1, s.2)

/-- One row of characters occurs in another without gaps. -/
def containsChars (needle : List Char) : List Char → Bool
  | [] => needle.isEmpty
  | c :: r => needle.isPrefixOf (c :: r) || containsChars needle r

/-- One text occurs in another. -/
def contains (needle s : String) : Bool := containsChars needle.toList s.toList

/-- The lines of a text, without the line feeds. -/
def lines (s : String) : List String := (splitAt '\n' s.toList).map String.ofList

/-- One row of characters is found in another exactly if it is an infix of it. -/
theorem containsChars_iff {needle cs : List Char} :
    containsChars needle cs = true ↔ needle <:+: cs := by
  induction cs with
  | nil => simp [containsChars]
  | cons c r ih =>
    rw [containsChars, Bool.or_eq_true, List.isPrefixOf_iff_prefix, ih, List.infix_cons_iff]

/-- A text has at least one part. -/
theorem splitAt_ne_nil (sep : Char) (cs : List Char) : splitAt sep cs ≠ [] := by
  cases cs with
  | nil => simp [splitAt]
  | cons c r =>
    simp only [splitAt]
    split
    · simp
    · split <;> simp

/-- Joining the two parts of a cut with the separator gives the text back. -/
theorem splitOnce_append (sep : Char) (cs : List Char) :
    (splitOnce sep cs).1 ++ ((splitOnce sep cs).2.map (sep :: ·)).getD [] = cs := by
  induction cs with
  | nil => rfl
  | cons c r ih =>
    by_cases h : c = sep
    · simp [splitOnce, h]
    · simp [splitOnce, h, ih]

/-- Characters without a separator are not cut. -/
theorem splitOnce_of_not_mem {sep : Char} {cs : List Char} (h : sep ∉ cs) :
    splitOnce sep cs = (cs, none) := by
  induction cs with
  | nil => rfl
  | cons c r ih =>
    rw [List.mem_cons, not_or] at h
    rw [splitOnce, if_neg (Ne.symm h.1), ih h.2]

/-- The cut is made at the first separator. -/
theorem splitOnce_append_cons {sep : Char} {front : List Char} (h : sep ∉ front)
    (rest : List Char) : splitOnce sep (front ++ sep :: rest) = (front, some rest) := by
  induction front with
  | nil => rw [List.nil_append, splitOnce, if_pos rfl]
  | cons c r ih =>
    rw [List.mem_cons, not_or] at h
    rw [List.cons_append, splitOnce, if_neg (Ne.symm h.1), ih h.2]

/-- Joining all parts with the separator gives the text back. -/
theorem intercalate_splitAt (sep : Char) (cs : List Char) :
    List.intercalate [sep] (splitAt sep cs) = cs := by
  induction cs with
  | nil => rfl
  | cons c r ih =>
    by_cases h : c = sep
    · subst h
      have := splitAt_ne_nil c r
      revert ih
      simp only [splitAt, if_true]
      cases hs : splitAt c r with
      | nil => exact absurd hs this
      | cons p ps => intro ih; rw [List.intercalate_cons_cons, ih]; simp
    · simp only [splitAt, h, if_false]
      cases hs : splitAt sep r with
      | nil => exact absurd hs (splitAt_ne_nil sep r)
      | cons p ps =>
        rw [hs] at ih
        cases ps with
        | nil => simp_all [List.intercalate]
        | cons q qs =>
          rw [List.intercalate_cons_cons] at ih ⊢
          simp_all

/-- Characters without a separator are one part. -/
theorem splitAt_of_not_mem {sep : Char} {cs : List Char} (h : sep ∉ cs) :
    splitAt sep cs = [cs] := by
  induction cs with
  | nil => rfl
  | cons c r ih =>
    rw [List.mem_cons, not_or] at h
    rw [splitAt, if_neg (Ne.symm h.1), ih h.2]

/-- A separator between two texts is a place to cut, so the parts are those of the two texts. -/
theorem splitAt_append (sep : Char) (xs ys : List Char) :
    splitAt sep (xs ++ sep :: ys) = splitAt sep xs ++ splitAt sep ys := by
  induction xs with
  | nil => simp [splitAt]
  | cons c r ih =>
    rw [List.cons_append, splitAt, splitAt, ih]
    split
    · rfl
    · cases h : splitAt sep r with
      | nil => exact absurd h (splitAt_ne_nil sep r)
      | cons part rest => rfl

/-- The first part ends at the first separator. -/
theorem splitAt_append_cons {sep : Char} {front : List Char} (h : sep ∉ front)
    (rest : List Char) : splitAt sep (front ++ sep :: rest) = front :: splitAt sep rest := by
  rw [splitAt_append, splitAt_of_not_mem h, List.singleton_append]

/-- Cutting parts that were joined with the separator gives them back. -/
theorem splitAt_intercalate {sep : Char} {part : List Char} {parts : List (List Char)}
    (h : ∀ p ∈ part :: parts, sep ∉ p) :
    splitAt sep ([sep].intercalate (part :: parts)) = part :: parts := by
  induction parts generalizing part with
  | nil => simpa using splitAt_of_not_mem (h part List.mem_cons_self)
  | cons next parts ih =>
    rw [List.intercalate_cons_cons, List.append_assoc, List.singleton_append,
      splitAt_append_cons (h part List.mem_cons_self),
      ih fun p member => h p (List.mem_cons_of_mem part member)]

/-- A separator at the end stands before an empty part. -/
theorem splitAt_append_sep (sep : Char) (cs : List Char) :
    splitAt sep (cs ++ [sep]) = splitAt sep cs ++ [[]] :=
  splitAt_append sep cs []

end ReleaseRefs.Text
