import ReleaseRefs.Proofs.Ref.Naming

/-!
# `ReleaseRefs.Proofs.Ref.Branches`: the names of release branches

A release branch is meant to be `release-` and `major.minor`, and to stand for the version with
patch zero. Its name is checked by putting `.0` behind it and reading the text as a version. That
accepts more: the `.0` goes to the last part of the version that is there, and this is not the patch
if the name has a prerelease or build metadata of its own.

- `BranchForm` lists the forms of the text behind `release-`, each with the version of the branch.
- `parse?_completed_iff`: these are the texts that `.0` completes to a version. Cutting at dots
  goes through concatenation (`dotted_append_iff`), so a last part is completed to dotted
  identifiers exactly if it was dotted identifiers before.
- `branches_accepted` says so of the check that a branch goes through before it is published. A
  branch is `major.minor` exactly if its version has no prerelease and no build metadata.
-/

set_option autoImplicit false

namespace ReleaseRefs.Proofs.Ref

open ReleaseRefs.Ref ReleaseRefs.Proofs.Version
open ReleaseRefs.Version (parse? isPrereleaseIdentifier isBuildIdentifier)
open Parts (number behind)

/-! ### Texts that are completed -/

/-- Dotted identifiers on both sides of a dot are dotted identifiers. -/
theorem dotted_append_iff {Identifier : List Char → Prop} {valid : List Char → Bool}
    (valid_iff : ∀ {x}, valid x = true ↔ Identifier x)
    (row : ∀ {x}, Identifier x → Row IsIdentifierCharacter x) {xs ys : List Char} :
    Dotted Identifier (xs ++ '.' :: ys) ↔ Dotted Identifier xs ∧ Dotted Identifier ys := by
  rw [← all_splitAt_iff valid_iff row, ← all_splitAt_iff valid_iff row,
    ← all_splitAt_iff valid_iff row, Text.splitAt_append, List.all_append, Bool.and_eq_true]

/-- A prerelease with `.0` behind it is one exactly if it was one before. -/
theorem prerelease_completed_iff {x : List Char} :
    Dotted PrereleaseIdentifier (x ++ ['.', '0']) ↔ Dotted PrereleaseIdentifier x := by
  have zero : Dotted PrereleaseIdentifier ['0'] := .one (.numeral .zero)
  rw [dotted_append_iff isPrereleaseIdentifier_iff PrereleaseIdentifier.row, and_iff_left zero]

/-- Build metadata with `.0` behind it are some exactly if they were some before. -/
theorem build_completed_iff {x : List Char} :
    Dotted BuildIdentifier (x ++ ['.', '0']) ↔ Dotted BuildIdentifier x := by
  have zero : Dotted BuildIdentifier ['0'] := .one (.digits (.one (by decide)))
  rw [dotted_append_iff isBuildIdentifier_iff BuildIdentifier.row, and_iff_left zero]

/-- A mark that is not in the tail of a text stands before it, and so the part behind the mark ends
in the tail. -/
theorem part_ends_in {mark : Char} {front part rest tail : List Char} (free : mark ∉ tail)
    (same : front ++ mark :: part = rest ++ tail) :
    ∃ x, rest = front ++ mark :: x ∧ part = x ++ tail := by
  rcases List.append_eq_append_iff.1 same with ⟨as, rfl, cut⟩ | ⟨bs, -, cut⟩
  · cases as with
    | nil =>
      rw [List.nil_append] at cut
      exact absurd (cut ▸ List.mem_cons_self) free
    | cons c x =>
      obtain ⟨rfl, rfl⟩ := List.cons.inj cut
      exact ⟨x, rfl, rfl⟩
  · exact absurd (cut ▸ List.mem_append_right bs List.mem_cons_self) free

/-- If three numerals joined by dots end in `.0`, then the last one is zero, and the other two are
what stands before. -/
theorem core_ends_in {p : Parts} (derived : p.Derived) {rest : List Char}
    (same : p.coreChars = rest ++ ['.', '0']) :
    rest = p.major ++ '.' :: p.minor ∧ p.patch = ['0'] := by
  have cut : [p.major, p.minor] ++ [p.patch] = Text.splitAt '.' rest ++ [['0']] := by
    show [p.major, p.minor, p.patch] = _
    rw [← derived.splitAt_core, same, Text.splitAt_append]
    rfl
  obtain ⟨front, patch⟩ := List.append_inj' cut rfl
  refine ⟨?_, List.singleton_inj.1 patch⟩
  rw [← Text.intercalate_splitAt '.' rest, ← front]
  simp [List.intercalate]

/-! ### The forms of a branch -/

/-- The forms of the text behind the start of a release branch, with the version that the branch
stands for. In the last two the text is a version already, and `.0` is put behind its last part. -/
inductive BranchForm : List Char → ReleaseRefs.Version → Prop where
  | release {major minor : List Char} (majorNumeral : Numeral major) (minorNumeral : Numeral minor)
      (majorShort : major.length ≤ Integer.maxDigits)
      (minorShort : minor.length ≤ Integer.maxDigits) :
      BranchForm (major ++ '.' :: minor) ⟨number major, number minor, 0, none, none⟩
  | prerelease {p : Parts} {x : List Char} (derived : p.Derived) (short : p.Short)
      (last : p.prerelease = some x) (noBuild : p.build = none) :
      BranchForm p.chars { p.version with prerelease := some (String.ofList (x ++ ['.', '0'])) }
  | build {p : Parts} {x : List Char} (derived : p.Derived) (short : p.Short)
      (last : p.build = some x) :
      BranchForm p.chars { p.version with build := some (String.ofList (x ++ ['.', '0'])) }

/-- Without build metadata a version ends after its prerelease. -/
theorem chars_of_build_none {p : Parts} (noBuild : p.build = none) :
    p.chars = p.coreChars ++ behind '-' p.prerelease := by
  rw [Parts.chars, noBuild]
  exact List.append_nil _

/-- The parts of a text that ends in `.0` are those of a form, with `.0` behind the last one. -/
theorem branchForm_of_chars {p : Parts} (derived : p.Derived) (short : p.Short) {cs : List Char}
    (chars : p.chars = cs ++ ['.', '0']) : BranchForm cs p.version := by
  obtain ⟨major, minor, patch, prerelease, build⟩ := p
  have numerals (x y : Option (List Char)) : Parts.Short ⟨major, minor, patch, x, y⟩ :=
    ⟨short.major, short.minor, short.patch⟩
  -- The text ends in the last part that is there, and so this part ends in `.0`.
  cases build with
  | some b =>
    obtain ⟨x, rfl, rfl⟩ := part_ends_in (by decide) chars
    have before := build_completed_iff.1 (derived.build _ rfl)
    exact .build (p := ⟨major, minor, patch, prerelease, some x⟩)
      { derived with build := by rintro _ ⟨⟩; exact before } (numerals _ _) rfl
  | none =>
    rw [chars_of_build_none rfl] at chars
    cases prerelease with
    | some a =>
      obtain ⟨x, rfl, rfl⟩ := part_ends_in (by decide) chars
      have before := prerelease_completed_iff.1 (derived.prerelease _ rfl)
      have form := BranchForm.prerelease (p := ⟨major, minor, patch, some x, none⟩)
        { derived with prerelease := by rintro _ ⟨⟩; exact before } (numerals _ _) rfl rfl
      rwa [chars_of_build_none rfl] at form
    | none =>
      have chars := (List.append_nil _).symm.trans chars
      obtain ⟨rfl, rfl⟩ := core_ends_in derived chars
      exact .release derived.major derived.minor short.major short.minor

/-- A text of one of the forms is completed to a version by `.0`. -/
theorem BranchForm.parts {cs : List Char} {v : ReleaseRefs.Version} (form : BranchForm cs v) :
    ∃ p : Parts, p.Derived ∧ p.Short ∧ p.chars = cs ++ ['.', '0'] ∧ p.version = v := by
  cases form with
  | @release major minor majorNumeral minorNumeral majorShort minorShort =>
    refine ⟨⟨major, minor, ['0'], none, none⟩, ⟨majorNumeral, minorNumeral, .zero, nofun, nofun⟩,
      ⟨majorShort, minorShort, (by decide : 1 ≤ Integer.maxDigits)⟩, ?_, rfl⟩
    simp [Parts.chars, Parts.coreChars, behind]
  | @prerelease p x derived short last noBuild =>
    refine ⟨{ p with prerelease := some (x ++ ['.', '0']) },
      { derived with prerelease := ?_ }, ⟨short.1, short.2, short.3⟩, ?_, rfl⟩
    · rintro _ ⟨⟩
      exact prerelease_completed_iff.2 (derived.prerelease x last)
    · simp [Parts.chars, Parts.coreChars, behind, last, noBuild]
  | @build p x derived short last =>
    refine ⟨{ p with build := some (x ++ ['.', '0']) },
      { derived with build := ?_ }, ⟨short.1, short.2, short.3⟩, ?_, rfl⟩
    · rintro _ ⟨⟩
      exact build_completed_iff.2 (derived.build x last)
    · simp [Parts.chars, Parts.coreChars, behind, last]

/-- A text is completed to a version by `.0` exactly if it has one of the forms. -/
theorem parse?_completed_iff {rest : String} {v : ReleaseRefs.Version} :
    parse? (rest ++ ".0") = some v ↔ BranchForm rest.toList v := by
  rw [parse?_eq_some_iff, String.toList_append]
  constructor
  · rintro ⟨p, derived, short, chars, rfl⟩
    exact branchForm_of_chars derived short chars
  · exact BranchForm.parts

/-- The text of a branch is `major.minor` exactly if its version has neither a prerelease nor build
metadata. Then the patch is zero. -/
theorem BranchForm.majorMinor_iff {cs : List Char} {v : ReleaseRefs.Version}
    (form : BranchForm cs v) :
    ((∃ major minor, Numeral major ∧ Numeral minor ∧ cs = major ++ '.' :: minor) ↔
      v.prerelease = none ∧ v.build = none) ∧
    (v.prerelease = none → v.build = none → v.patch = 0) := by
  -- Only digits and a dot: no text with a prerelease or build metadata is like this.
  have free {p : Parts} (mark : Char) (other : ¬ IsDigit mark) (notDot : mark ≠ '.')
      (there : mark ∈ p.chars) :
      ¬ ∃ major minor, Numeral major ∧ Numeral minor ∧ p.chars = major ++ '.' :: minor := by
    rintro ⟨major, minor, majorNumeral, minorNumeral, same⟩
    rw [same, List.mem_append, List.mem_cons] at there
    rcases there with inMajor | dot | inMinor
    · exact not_mem_of_numeral majorNumeral other inMajor
    · exact notDot dot
    · exact not_mem_of_numeral minorNumeral other inMinor
  cases form with
  | @release major minor majorNumeral minorNumeral =>
    exact ⟨iff_of_true ⟨major, minor, majorNumeral, minorNumeral, rfl⟩ ⟨rfl, rfl⟩, fun _ _ => rfl⟩
  | @prerelease p x _ _ last =>
    refine ⟨iff_of_false (free '-' (by decide) (by decide) ?_) fun plain => ?_, fun none => ?_⟩
    · simp [Parts.chars, behind, last]
    · exact Option.some_ne_none _ plain.1
    · exact absurd none (Option.some_ne_none _)
  | @build p x _ _ last =>
    refine ⟨iff_of_false (free '+' (by decide) (by decide) ?_) fun plain => ?_, fun _ none => ?_⟩
    · simp [Parts.chars, behind, last]
    · exact Option.some_ne_none _ plain.2
    · exact absurd none (Option.some_ne_none _)

/-! ### Accepted branches -/

/-- A branch is accepted exactly if it is `release-` and a text of one of the forms. -/
theorem check_branch_eq_ok_iff {tagStart name : String} {v : ReleaseRefs.Version} :
    Ref.check .branch tagStart name = .ok v ↔
      ∃ rest, name = "release-" ++ rest ∧ BranchForm rest.toList v := by
  show checkBranch name = .ok v ↔ _
  rw [checkBranch_eq_ok_iff, branchVersion, versionAfter_eq_ok_iff]
  simp only [parse?_completed_iff, branchStart]

/-- Which branches are accepted before they are published, and for which version.

- A branch is accepted exactly if `release-` is followed by `major.minor`, which stands for the
  version with patch zero, or by a version that has a prerelease or build metadata, which stands for
  the version with `.0` behind its last part.
- The first is the case exactly if the version has neither a prerelease nor build metadata. -/
theorem branches_accepted (tagStart name : String) (v : ReleaseRefs.Version) :
    (Ref.check .branch tagStart name = .ok v ↔
      ∃ rest, name = "release-" ++ rest ∧ BranchForm rest.toList v) ∧
    ∀ rest, Ref.check .branch tagStart ("release-" ++ rest) = .ok v →
      ((∃ major minor, Numeral major ∧ Numeral minor ∧ rest.toList = major ++ '.' :: minor) ↔
        v.prerelease = none ∧ v.build = none) ∧
      (v.prerelease = none → v.build = none → v.patch = 0) := by
  refine ⟨check_branch_eq_ok_iff, fun rest accepted => ?_⟩
  obtain ⟨rest', same, form⟩ := check_branch_eq_ok_iff.1 accepted
  obtain rfl := (String.append_right_inj "release-").1 same
  exact form.majorMinor_iff

/-- A release candidate is accepted as a branch, and it stands for a version with its patch. -/
theorem branches_accepted_release_candidate :
    Ref.check .branch "v" "release-1.2.3-rc" = .ok ⟨1, 2, 3, some "rc.0", none⟩ ∧
    ¬ ∃ major minor, Numeral major ∧ Numeral minor ∧
      "1.2.3-rc".toList = major ++ '.' :: minor := by
  have accepted :
      Ref.check .branch "v" "release-1.2.3-rc" = .ok ⟨1, 2, 3, some "rc.0", none⟩ := by rfl
  refine ⟨accepted, fun majorMinor => ?_⟩
  have plain := ((branches_accepted "v" "release-1.2.3-rc" _).2 "1.2.3-rc" accepted).1.1 majorMinor
  cases plain.1

end ReleaseRefs.Proofs.Ref
