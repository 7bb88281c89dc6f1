/-!
# `ReleaseRefs.Text.Blank`: white space at the edges of a text

Blanks are the characters with the Unicode property of white space together with the four separators
U+001C to U+001F. Numerals may stand between white space in the narrow sense only.

- `isBlank` and `isWhiteSpace` decide the two classes, `strip` drops blanks at both ends of a text.
- `Trimmed` says that there is nothing to drop: exactly then characters stay as they are
  (`stripChars_eq_self_iff`, `strip_eq_self_iff`). Characters none of which is blank do
  (`stripChars_of_plain`).
- `strip_append`: behind a trimmed text, white space is dropped at the end only.
- `isBlank_of_isWhitespace`: the ASCII class of the standard library lies inside it.
-/

set_option autoImplicit false

namespace ReleaseRefs.Text

/-- White space of any script, the information separators included. -/
def isBlank (c : Char) : Bool :=
  let n := c.toNat
  (9 ≤ n && n ≤ 13) || (28 ≤ n && n ≤ 32) || n == 0x85 || n == 0xA0 || n == 0x1680 ||
    (0x2000 ≤ n && n ≤ 0x200A) || n == 0x2028 || n == 0x2029 || n == 0x202F || n == 0x205F ||
    n == 0x3000

/-- White space of any script, without the information separators. -/
def isWhiteSpace (c : Char) : Bool := isBlank c && !(0x1C ≤ c.toNat && c.toNat ≤ 0x1F)

/-- The characters without those that satisfy `p` at either end. -/
def stripWhere (p : Char → Bool) (cs : List Char) : List Char :=
  ((cs.dropWhile p).reverse.dropWhile p).reverse

/-- The characters without white space at either end. -/
def stripChars (cs : List Char) : List Char := stripWhere isBlank cs

/-- The text without white space at either end. -/
def strip (s : String) : String := String.ofList (stripChars s.toList)

/-- The text holds nothing but white space. -/
def isBlankText (s : String) : Bool := s.toList.all isBlank

/-- Neither the first nor the last character is white space. -/
def Trimmed (cs : List Char) : Prop :=
  (∀ c ∈ cs.head?, isBlank c = false) ∧ ∀ c ∈ cs.getLast?, isBlank c = false

-- Not by inference: an instance that goes through all characters would be found as well.
instance : DecidablePred Trimmed := fun cs =>
  @instDecidableAnd _ _ (Option.decidableForallMem cs.head?) (Option.decidableForallMem cs.getLast?)

/-- The characters without white space at the end. -/
def stripEnd (cs : List Char) : List Char := (cs.reverse.dropWhile isBlank).reverse

/-- Characters without white space are trimmed. -/
theorem Trimmed.of_plain {cs : List Char} (h : ∀ c ∈ cs, isBlank c = false) : Trimmed cs :=
  ⟨fun c first => h c (List.mem_of_head? first), fun c last => h c (List.mem_of_getLast? last)⟩

/-- Nothing is dropped where the first character does not count. -/
theorem dropWhile_of_head {p : Char → Bool} {cs : List Char} (h : ∀ c ∈ cs.head?, p c = false) :
    cs.dropWhile p = cs := by
  cases cs with
  | nil => rfl
  | cons c r => rw [List.dropWhile_cons, h c rfl, if_neg Bool.false_ne_true]

/-- Behind characters that have no white space at their ends, only the end is stripped. -/
theorem stripChars_append {front : List Char} (trimmed : Trimmed front) (nonempty : front ≠ [])
    (rest : List Char) : stripChars (front ++ rest) = front ++ stripEnd rest := by
  have start : (front ++ rest).dropWhile isBlank = front ++ rest := by
    refine dropWhile_of_head fun c first => trimmed.1 c ?_
    cases front with
    | nil => exact absurd rfl nonempty
    | cons => exact first
  have back : front.reverse.dropWhile isBlank = front.reverse := by
    refine dropWhile_of_head fun c first => trimmed.2 c ?_
    rwa [List.head?_reverse] at first
  rw [stripChars, stripWhere, start, List.reverse_append, List.dropWhile_append, back]
  split
  · next nothing =>
    rw [stripEnd, List.isEmpty_iff.1 nothing, List.reverse_reverse, List.reverse_nil,
      List.append_nil]
  · rw [stripEnd, List.reverse_append, List.reverse_reverse]

/-- What is left has no white space at its ends. -/
theorem trimmed_stripChars (cs : List Char) : Trimmed (stripChars cs) := by
  have first (ds : List Char) : ∀ c ∈ (ds.dropWhile isBlank).head?, isBlank c = false := by
    intro c head
    have kept := List.head?_dropWhile_not isBlank ds
    rw [show (ds.dropWhile isBlank).head? = some c from head] at kept
    exact kept
  constructor
  · -- What is dropped at the end leaves the first character where it is.
    intro c head
    obtain ⟨dropped, all⟩ := List.dropWhile_suffix isBlank (l := (cs.dropWhile isBlank).reverse)
    have front := congrArg List.reverse all
    rw [List.reverse_append, List.reverse_reverse] at front
    refine first cs c ?_
    rw [← front, List.head?_append, show (List.reverse _).head? = some c from head]
    rfl
  · intro c last
    rw [stripChars, stripWhere, List.getLast?_reverse] at last
    exact first _ c last

/-- Characters that have no white space at their ends stay as they are, and no others do. -/
theorem stripChars_eq_self_iff {cs : List Char} : stripChars cs = cs ↔ Trimmed cs := by
  constructor
  · intro same
    exact same ▸ trimmed_stripChars cs
  · intro trimmed
    cases cs with
    | nil => rfl
    | cons c r =>
      have kept := stripChars_append trimmed (List.cons_ne_nil c r) []
      rwa [List.append_nil, stripEnd, List.reverse_nil, List.dropWhile_nil, List.reverse_nil,
        List.append_nil] at kept

/-- A text that has no white space at its ends stays as it is, and no other does. -/
theorem strip_eq_self_iff {s : String} : strip s = s ↔ Trimmed s.toList := by
  rw [strip, ← stripChars_eq_self_iff, ← String.toList_inj, String.toList_ofList]

/-- What stands between trimmed texts does not matter. -/
theorem Trimmed.join {front back : String} (trimmed : Trimmed front.toList)
    (trimmed' : Trimmed back.toList) (nonempty : front ≠ "") (nonempty' : back ≠ "")
    (middle : String) : Trimmed (front ++ middle ++ back).toList := by
  rw [String.toList_append, String.toList_append]
  constructor
  · cases start : front.toList with
    | nil => exact absurd (String.toList_eq_nil_iff.1 start) nonempty
    | cons =>
      rw [start] at trimmed
      exact trimmed.1
  · have some : back.toList.getLast? ≠ none := by
      rwa [Ne, List.getLast?_eq_none_iff, String.toList_eq_nil_iff]
    obtain ⟨c, last⟩ := Option.ne_none_iff_exists'.1 some
    rw [List.getLast?_append, last, Option.some_or, ← last]
    exact trimmed'.2

/-- Behind a trimmed text, only the end is stripped. -/
theorem strip_append {front : String} (trimmed : Trimmed front.toList) (nonempty : front ≠ "")
    (rest : String) : strip (front ++ rest) = front ++ String.ofList (stripEnd rest.toList) := by
  rw [strip, String.toList_append,
    stripChars_append trimmed (mt String.toList_eq_nil_iff.1 nonempty), String.ofList_append,
    String.ofList_toList]

/-- Characters none of which is blank stay as they are. -/
theorem stripChars_of_plain {cs : List Char} (h : ∀ c ∈ cs, isBlank c = false) :
    stripChars cs = cs :=
  stripChars_eq_self_iff.2 (.of_plain h)

/-- The white space of the standard library's class counts. -/
theorem isBlank_of_isWhitespace (c : Char) (h : c.isWhitespace = true) : isBlank c = true := by
  simp only [Char.isWhitespace, Bool.or_eq_true, decide_eq_true_eq] at h
  rcases h with ((h | h) | h) | h <;> subst h <;> decide

end ReleaseRefs.Text
