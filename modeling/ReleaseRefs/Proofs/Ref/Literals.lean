import Mathlib.Data.List.Chain
import ReleaseRefs.Proofs.Ref.Naming

/-!
# `ReleaseRefs.Proofs.Ref.Literals`: the characters of accepted names

A name is handed to git as it stands, inside its full ref. So it matters which characters a name can
bring along, and where its dots are.

- `VersionText` says what is known of the text behind the start of a name. `check_versionText`: it
  holds of every name that is accepted, although a branch is read with `.0` behind it.
- `Spaced` carries the part about dots through the grammar: texts that are joined by any one
  character keep their dots apart (`Spaced.join`).
- `IsSpecial` has the characters that git does not take for themselves. `Literal` says that a ref
  has none, but for what the configured start brings in, and `check_literal` that this is so for the
  full ref of an accepted name.
-/

set_option autoImplicit false

namespace ReleaseRefs.Proofs.Ref

open ReleaseRefs.Ref ReleaseRefs.Proofs.Version
open Parts (behind)

/-! ### Dots -/

/-- No two dots are neighbours. -/
def DotsApart (cs : List Char) : Prop := cs.IsChain fun a b => ¬ (a = '.' ∧ b = '.')

/-- Dots stand between other characters: one at a time, and not at an end. -/
structure Spaced (cs : List Char) : Prop where
  nonempty : cs ≠ []
  first : cs.head? ≠ some '.'
  last : cs.getLast? ≠ some '.'
  apart : DotsApart cs

/-- Texts in which dots stand between other characters may be joined by any character. -/
theorem Spaced.join {xs ys : List Char} (left : Spaced xs) (right : Spaced ys) (c : Char) :
    Spaced (xs ++ c :: ys) where
  nonempty := List.append_ne_nil_of_right_ne_nil xs (List.cons_ne_nil c ys)
  first := by
    rw [List.head?_append_of_ne_nil xs left.nonempty]
    exact left.first
  last := by
    rw [List.getLast?_append_cons, List.getLast?_cons_of_ne_nil right.nonempty]
    exact right.last
  apart := by
    refine List.isChain_append.2 ⟨left.apart, List.isChain_cons.2 ⟨?_, right.apart⟩, ?_⟩
    · rintro y first ⟨-, rfl⟩
      exact right.first first
    · rintro x last y - ⟨rfl, -⟩
      exact left.last last

/-- A row of identifier characters has no dots. -/
theorem Spaced.of_row {cs : List Char} (row : Row IsIdentifierCharacter cs) : Spaced cs := by
  have noDot : '.' ∉ cs := not_mem_of_row row (by decide)
  refine ⟨(row_iff.1 row).1, fun first => noDot (List.mem_of_head? first),
    fun last => noDot (List.mem_of_getLast? last), List.Pairwise.isChain ?_⟩
  refine List.pairwise_of_forall_mem_list ?_
  rintro a member b - ⟨rfl, -⟩
  exact noDot member

theorem Spaced.of_numeral {cs : List Char} (numeral : Numeral cs) : Spaced cs :=
  .of_row (row_of_digits (row_of_numeral numeral))

/-- The dots of dotted identifiers stand between them. -/
theorem Spaced.of_dotted {Identifier : List Char → Prop}
    (row : ∀ {x}, Identifier x → Row IsIdentifierCharacter x) {cs : List Char}
    (dotted : Dotted Identifier cs) : Spaced cs := by
  induction dotted with
  | one identifier => exact .of_row (row identifier)
  | more identifier _ ih => exact (Spaced.of_row (row identifier)).join ih '.'

/-- A part behind its mark may be put behind a text. -/
theorem Spaced.behind {xs : List Char} (left : Spaced xs) (mark : Char)
    {part : Option (List Char)} (right : ∀ x ∈ part, Spaced x) :
    Spaced (xs ++ behind mark part) := by
  cases part with
  | none =>
    show Spaced (xs ++ [])
    rwa [List.append_nil]
  | some x => exact left.join (right x rfl) mark

/-! ### Versions -/

/-- A letter, digit or dash, or one of the other two characters that versions are written with. -/
def IsVersionCharacter (c : Char) : Prop :=
  IsLetter c ∨ IsDigit c ∨ c = '.' ∨ c = '+' ∨ c = '-'

theorem isVersionCharacter_of_identifier {c : Char} (identifier : IsIdentifierCharacter c) :
    IsVersionCharacter c := by
  rcases identifier with digit | letter | dash
  · exact .inr (.inl digit)
  · exact .inl letter
  · exact .inr (.inr (.inr (.inr dash)))

/-- The code points of these characters. -/
theorem IsVersionCharacter.point {c : Char} (known : IsVersionCharacter c) :
    (48 ≤ c.toNat ∧ c.toNat ≤ 57) ∨ (65 ≤ c.toNat ∧ c.toNat ≤ 90) ∨
      (97 ≤ c.toNat ∧ c.toNat ≤ 122) ∨ c.toNat = 46 ∨ c.toNat = 43 ∨ c.toNat = 45 := by
  rcases known with (upper | lower) | digit | rfl | rfl | rfl
  · exact .inr (.inl upper)
  · exact .inr (.inr (.inl lower))
  · exact .inl digit
  all_goals decide

/-- A text that starts with a digit, is written with the characters of versions, and has its dots
between other characters. -/
structure VersionText (cs : List Char) : Prop where
  digit : ∃ c ∈ cs.head?, IsDigit c
  characters : ∀ c ∈ cs, IsVersionCharacter c
  apart : DotsApart cs
  last : cs.getLast? ≠ some '.'

/-- Dotted identifiers are written with the characters of versions. -/
theorem characters_of_dotted {Identifier : List Char → Prop}
    (row : ∀ {x}, Identifier x → Row IsIdentifierCharacter x) {cs : List Char}
    (dotted : Dotted Identifier cs) : ∀ c ∈ cs, IsVersionCharacter c := by
  intro c member
  by_cases identifier : IsIdentifierCharacter c
  · exact isVersionCharacter_of_identifier identifier
  · have other : ReleaseRefs.Version.isIdentifierChar c = false :=
      Bool.eq_false_iff.2 fun known => identifier (isIdentifierChar_iff.1 known)
    by_contra unfit
    exact not_mem_of_dotted row dotted other (fun dot => unfit (.inr (.inr (.inl dot)))) member

/-- A part behind its mark is written with the characters of versions if the part and the mark
are. -/
theorem characters_behind {mark : Char} (known : IsVersionCharacter mark)
    {part : Option (List Char)} (characters : ∀ x ∈ part, ∀ c ∈ x, IsVersionCharacter c) :
    ∀ c ∈ behind mark part, IsVersionCharacter c := by
  cases part with
  | none => exact fun c member => absurd member List.not_mem_nil
  | some x =>
    intro c member
    rcases List.mem_cons.1 member with rfl | within
    · exact known
    · exact characters x rfl c within

/-- Parts of a version are put together to such a text. -/
theorem versionText_chars {p : Parts} (derived : p.Derived) : VersionText p.chars := by
  have spaced : Spaced p.chars := by
    have core : Spaced p.coreChars :=
      (Spaced.of_numeral derived.major).join
        ((Spaced.of_numeral derived.minor).join (Spaced.of_numeral derived.patch) '.') '.'
    exact (core.behind '-' fun x part =>
      .of_dotted PrereleaseIdentifier.row (derived.prerelease x part)).behind '+' fun x part =>
        .of_dotted BuildIdentifier.row (derived.build x part)
  refine ⟨?_, ?_, spaced.apart, spaced.last⟩
  · obtain ⟨some, digits⟩ := row_iff.1 (row_of_numeral derived.major)
    obtain ⟨c, r, major⟩ := List.exists_cons_of_ne_nil some
    refine ⟨c, ?_, digits c (major ▸ List.mem_cons_self)⟩
    simp [Parts.chars, Parts.coreChars, major]
  · intro c member
    rw [Parts.chars, List.mem_append, List.mem_append] at member
    rcases member with (core | prerelease) | build
    · by_contra unfit
      refine derived.not_mem_core (fun digit => unfit (.inr (.inl digit)))
        (fun dot => unfit (.inr (.inr (.inl dot)))) core
    · exact characters_behind (.inr (.inr (.inr (.inr rfl))))
        (fun x part => characters_of_dotted PrereleaseIdentifier.row (derived.prerelease x part))
        c prerelease
    · exact characters_behind (.inr (.inr (.inr (.inl rfl))))
        (fun x part => characters_of_dotted BuildIdentifier.row (derived.build x part)) c build

/-- What `.0` completes to such a text is one already. -/
theorem VersionText.of_completed {cs : List Char} (text : VersionText (cs ++ ['.', '0'])) :
    VersionText cs := by
  obtain ⟨apart, -, border⟩ := List.isChain_append.1 text.apart
  refine ⟨?_, fun c member => text.characters c (List.mem_append_left _ member), apart,
    fun last => border '.' last '.' rfl ⟨rfl, rfl⟩⟩
  -- Were there nothing in front of `.0`, the text would start with a dot.
  obtain ⟨c, first, digit⟩ := text.digit
  cases cs with
  | nil =>
    obtain rfl := Option.some.inj first
    exact absurd digit (by decide)
  | cons => exact ⟨c, first, digit⟩

/-! ### Names -/

/-- What an accepted name of a kind starts with. -/
def startOf (tagStart : String) : Kind → String
  | .branch => branchStart
  | .tag => tagStart

/-- Behind its start an accepted name is written like a version. -/
theorem check_versionText {kind : Kind} {tagStart name : String} {v : ReleaseRefs.Version}
    (accepted : Ref.check kind tagStart name = .ok v) :
    ∃ rest, name = startOf tagStart kind ++ rest ∧ VersionText rest.toList := by
  -- What was read is a version, and its text is the one that its parts are put together to.
  have written {text : String} (read : ReleaseRefs.Version.parse? text = some v) :
      VersionText text.toList := by
    obtain ⟨p, derived, -, chars⟩ := parse?_isSome_iff.1 ⟨v, read⟩
    exact chars ▸ versionText_chars derived
  cases kind with
  | branch =>
    obtain ⟨rest, same, read⟩ := versionAfter_eq_ok_iff.1 (checkBranch_eq_ok_iff.1 accepted)
    have completed := written read
    rw [String.toList_append] at completed
    exact ⟨rest, same, completed.of_completed⟩
  | tag =>
    obtain ⟨rest, same, read⟩ := versionAfter_eq_ok_iff.1 (checkTag_eq_ok_iff.1 accepted)
    have text := written read
    rw [String.append_empty] at text
    exact ⟨rest, same, text⟩

/-! ### Refs -/

/-- White space, and the characters that git gives a meaning in a ref that it is handed: the one
between the two sides of a push, those of patterns, and those of expressions about commits. -/
def IsSpecial (c : Char) : Prop :=
  Text.isBlank c = true ∨ c ∈ [':', '*', '?', '\x5b', '^', '~', '\\']

instance : DecidablePred IsSpecial := fun c =>
  inferInstanceAs (Decidable (Text.isBlank c = true ∨ c ∈ [':', '*', '?', '\x5b', '^', '~', '\\']))

/-- No character of a version is special. -/
theorem IsVersionCharacter.not_special {c : Char} (known : IsVersionCharacter c) :
    ¬ IsSpecial c := by
  have point := known.point
  rintro (blank | mark)
  · simp only [Text.isBlank, Bool.or_eq_true, Bool.and_eq_true, decide_eq_true_eq, beq_iff_eq]
      at blank
    omega
  · simp only [List.mem_cons, List.not_mem_nil, or_false] at mark
    rcases mark with rfl | rfl | rfl | rfl | rfl | rfl | rfl <;> revert point <;> decide

/-- A ref that git takes for itself: apart from a text that was configured, none of its characters
is special. It reads neither as an option nor as a push by force, and it has no white space at its
ends. -/
structure Literal (configured ref : String) : Prop where
  plain : ∃ front back, ref = front ++ configured ++ back ∧
    ∀ c ∈ (front ++ back).toList, ¬ IsSpecial c
  first : ref.toList.head? ≠ some '-' ∧ ref.toList.head? ≠ some '+'
  whole : Text.strip ref = ref

/-- The configured text in the full ref of a kind: the start of tags. That of branches is fixed. -/
def configuredIn (tagStart : String) : Kind → String
  | .branch => ""
  | .tag => tagStart

/-- The full ref of an accepted name is taken for itself. -/
theorem check_literal {kind : Kind} {tagStart name : String} {v : ReleaseRefs.Version}
    (accepted : Ref.check kind tagStart name = .ok v) :
    Literal (configuredIn tagStart kind) (kind.fullRef name) := by
  obtain ⟨rest, rfl, text⟩ := check_versionText accepted
  have plain : ∀ c ∈ rest.toList, ¬ IsSpecial c := fun c member =>
    (text.characters c member).not_special
  have trimmed : Text.Trimmed rest.toList :=
    .of_plain fun c member => Bool.eq_false_iff.2 fun blank => plain c member (.inl blank)
  have nonempty : rest ≠ "" := by
    rintro rfl
    obtain ⟨c, first, -⟩ := text.digit
    cases first
  have noneSpecial {s : String} (checked : s.toList.any (fun c => decide (IsSpecial c)) = false) :
      ∀ c ∈ s.toList, ¬ IsSpecial c := fun c member =>
    of_decide_eq_false (Bool.eq_false_iff.2 (List.any_eq_false.1 checked c member))
  -- The front is the same for all names of a kind.
  obtain ⟨front, same, fixed, frontTrimmed, start⟩ : ∃ front,
      kind.fullRef (startOf tagStart kind ++ rest) = front ++ configuredIn tagStart kind ++ rest ∧
      (∀ c ∈ front.toList, ¬ IsSpecial c) ∧ Text.Trimmed front.toList ∧
      front.toList.head? = some 'r' := by
    cases kind with
    | branch => exact ⟨"refs/heads/release-", rfl, noneSpecial (by decide), by decide, rfl⟩
    | tag =>
      exact ⟨"refs/tags/", (String.append_assoc ..).symm, noneSpecial (by decide), by decide, rfl⟩
  have frontNonempty : front ≠ "" := by
    rintro rfl
    cases start
  have first : (front ++ configuredIn tagStart kind ++ rest).toList.head? = some 'r' := by
    rw [String.toList_append, String.toList_append, List.append_assoc, List.head?_append, start]
    rfl
  refine ⟨⟨front, rest, same, fun c member => ?_⟩, ?_, ?_⟩
  · rw [String.toList_append, List.mem_append] at member
    exact member.elim (fixed c) (plain c)
  · rw [same, first]
    decide
  · rw [same]
    exact Text.strip_eq_self_iff.2 (frontTrimmed.join trimmed frontNonempty nonempty _)

end ReleaseRefs.Proofs.Ref
