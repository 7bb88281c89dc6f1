import ReleaseRefs.Failure
import ReleaseRefs.Proofs.Version.Grammar

/-!
# `ReleaseRefs.Proofs.Ref.Naming`: which names are accepted

A name is accepted if it starts as it has to and the rest is a version of the grammar in
`ReleaseRefs.Proofs.Version.Grammar`.

- `versionAfter_cases` goes through what can come of reading a name.
- `names_accepted` says for tags and branches which names are accepted, for which of the two reasons
  the others are refused, and that a tag can be told from its version.
-/

set_option autoImplicit false

namespace ReleaseRefs.Proofs.Ref

open ReleaseRefs.Ref ReleaseRefs.Proofs.Version

/-- The reason for which a name is refused, if it is. -/
def reason? : Except Raised ReleaseRefs.Version → Option String
  | .error ⟨.publish ⟨.invalidName reason, _, _⟩, _⟩ => some reason
  | _ => none

/-- What comes of reading the version behind the start of a name. -/
inductive Named (start tail name : String) : Except Flaw ReleaseRefs.Version → Prop where
  | refused : ¬ start.toList <+: name.toList → Named start tail name (.error .start)
  | unread {rest : String} : name = start ++ rest → ¬ Readable (rest ++ tail).toList →
      Named start tail name (.error .version)
  | accepted {rest : String} {v : ReleaseRefs.Version} : name = start ++ rest →
      Readable (rest ++ tail).toList → v.text = rest ++ tail → Named start tail name (.ok v)

/-- A name is refused for its start, or for what follows it, or it stands for a version. -/
theorem versionAfter_cases (start tail name : String) :
    Named start tail name (versionAfter start tail name) := by
  unfold versionAfter
  split
  · next absent => exact .refused (dropStart?_eq_none_iff.1 absent)
  · next rest dropped =>
    have same := dropStart?_eq_some_iff.1 dropped
    split
    · next failed =>
      refine .unread same fun readable => ?_
      obtain ⟨v, read⟩ := parse?_isSome_iff.2 readable
      cases failed.symm.trans read
    · next v read => exact .accepted same (parse?_isSome_iff.1 ⟨v, read⟩) (text_of_parse? read)

/-- A name stands for a version if the text behind its start is completed to it by the tail. -/
theorem versionAfter_eq_ok_iff {start tail name : String} {v : ReleaseRefs.Version} :
    versionAfter start tail name = .ok v ↔
      ∃ rest, name = start ++ rest ∧ ReleaseRefs.Version.parse? (rest ++ tail) = some v := by
  constructor
  · intro read
    cases dropped : dropStart? start name with
    | none =>
      rw [versionAfter, dropped] at read
      cases read
    | some rest =>
      refine ⟨rest, dropStart?_eq_some_iff.1 dropped, ?_⟩
      cases parsed : ReleaseRefs.Version.parse? (rest ++ tail) with
      | none =>
        simp only [versionAfter, dropped, parsed] at read
        cases read
      | some w =>
        simp only [versionAfter, dropped, parsed] at read
        exact congrArg some (Except.ok.inj read)
  · rintro ⟨rest, same, parsed⟩
    simp only [versionAfter, dropStart?_eq_some_iff.2 same, parsed]

/-! ### The two checks -/

theorem checkTag_eq_ok_iff {start name : String} {v : ReleaseRefs.Version} :
    checkTag start name = .ok v ↔ tagVersion start name = .ok v := by
  unfold checkTag
  split <;> simp_all

theorem checkBranch_eq_ok_iff {name : String} {v : ReleaseRefs.Version} :
    checkBranch name = .ok v ↔ branchVersion name = .ok v := by
  unfold checkBranch
  split <;> simp_all

/-- The reason for which a tag is refused is the word for its flaw. -/
theorem reason?_checkTag {start name : String} {flaw : Flaw}
    (refused : tagVersion start name = .error flaw) :
    reason? (checkTag start name) = some flaw.word := by
  unfold checkTag
  rw [refused]
  cases flaw <;> rfl

/-- The reason for which a branch is refused is the word for its flaw. -/
theorem reason?_checkBranch {name : String} {flaw : Flaw}
    (refused : branchVersion name = .error flaw) :
    reason? (checkBranch name) = some flaw.word := by
  unfold checkBranch
  rw [refused]
  cases flaw <;> rfl

theorem prefix_append (start rest : String) : start.toList <+: (start ++ rest).toList := by
  rw [String.toList_append]
  exact List.prefix_append _ _

/-- A name is refused for its start if and only if it does not have it. -/
theorem versionAfter_eq_start_iff (start tail name : String) :
    versionAfter start tail name = .error .start ↔ ¬ start.toList <+: name.toList := by
  have named := versionAfter_cases start tail name
  generalize versionAfter start tail name = r at named
  cases named with
  | refused absent => exact iff_of_true rfl absent
  | unread same _ => exact iff_of_false nofun fun absent => absent (same ▸ prefix_append ..)
  | accepted same _ _ => exact iff_of_false nofun fun absent => absent (same ▸ prefix_append ..)

/-- A name with the start is accepted if the rest is a version, and refused for the rest if not. -/
theorem versionAfter_append (start tail rest : String) :
    match versionAfter start tail (start ++ rest) with
    | .ok v => Readable (rest ++ tail).toList ∧ v.text = rest ++ tail
    | .error flaw => ¬ Readable (rest ++ tail).toList ∧ flaw = .version := by
  have named := versionAfter_cases start tail (start ++ rest)
  generalize versionAfter start tail (start ++ rest) = r at named
  cases named with
  | refused absent => exact absurd (prefix_append start rest) absent
  | unread same unread =>
    obtain rfl := (String.append_right_inj start).1 same
    exact ⟨unread, rfl⟩
  | accepted same readable text =>
    obtain rfl := (String.append_right_inj start).1 same
    exact ⟨readable, text⟩

/-- Two names that stand for one version are the same. -/
theorem versionAfter_injective {start tail m n : String} {v : ReleaseRefs.Version}
    (first : versionAfter start tail m = .ok v) (second : versionAfter start tail n = .ok v) :
    m = n := by
  have left := versionAfter_cases start tail m
  have right := versionAfter_cases start tail n
  rw [first] at left
  rw [second] at right
  -- Both rests are what the version is written as.
  cases left with
  | accepted sameLeft _ textLeft =>
    cases right with
    | accepted sameRight _ textRight =>
      have rests := (String.append_left_inj tail).1 (textLeft.symm.trans textRight)
      rw [sameLeft, sameRight, rests]

/-- A tag is refused for its start if and only if it does not have it. -/
theorem reason?_checkTag_start_iff (start name : String) :
    reason? (checkTag start name) = some "prefix" ↔ ¬ start.toList <+: name.toList := by
  rw [← versionAfter_eq_start_iff start ""]
  cases read : versionAfter start "" name with
  | ok v =>
    rw [checkTag_eq_ok_iff.2 read]
    exact iff_of_false nofun nofun
  | error flaw =>
    rw [reason?_checkTag read]
    cases flaw <;> simp [Flaw.word]

/-- A branch is refused for its start if and only if it does not have it. -/
theorem reason?_checkBranch_start_iff (name : String) :
    reason? (checkBranch name) = some "prefix" ↔ ¬ branchStart.toList <+: name.toList := by
  rw [← versionAfter_eq_start_iff branchStart ".0"]
  cases read : versionAfter branchStart ".0" name with
  | ok v =>
    rw [checkBranch_eq_ok_iff.2 read]
    exact iff_of_false nofun nofun
  | error flaw =>
    rw [reason?_checkBranch read]
    cases flaw <;> simp [Flaw.word]

/-- A tag with the start is accepted if the rest is a version, and then the version is written like
the rest. If not, the tag is refused for the rest. -/
theorem checkTag_append (start rest : String) :
    match checkTag start (start ++ rest) with
    | .ok v => Readable rest.toList ∧ v.text = rest
    | r => ¬ Readable rest.toList ∧ reason? r = some "version" := by
  have named := versionAfter_append start "" rest
  rw [String.append_empty] at named
  cases read : versionAfter start "" (start ++ rest) with
  | ok v =>
    rw [checkTag_eq_ok_iff.2 read]
    rw [read] at named
    exact named
  | error flaw =>
    have reason := reason?_checkTag read
    rw [read] at named
    obtain ⟨unread, rfl⟩ := named
    cases checked : checkTag start (start ++ rest) with
    | ok v => rw [checked] at reason; cases reason
    | error r => exact ⟨unread, by rw [← checked, reason]; rfl⟩

/-- A branch is accepted as the tag that its rest with `.0` would be. -/
theorem checkBranch_eq_ok_iff_checkTag (name : String) (v : ReleaseRefs.Version) :
    checkBranch name = .ok v ↔
      ∃ rest, name = branchStart ++ rest ∧ checkTag "" (rest ++ ".0") = .ok v := by
  rw [checkBranch_eq_ok_iff, branchVersion, versionAfter_eq_ok_iff]
  refine exists_congr fun rest => and_congr_right fun _ => ?_
  rw [checkTag_eq_ok_iff, tagVersion, versionAfter_eq_ok_iff]
  simp

/-- Which names are accepted, and why the others are not.

For every start and every text:

- a tag is refused for its start exactly if it does not have it;
- otherwise it is accepted exactly if the rest is a version of the grammar whose numerals are not
  too long, and refused for the rest if it is not; an accepted version is written like the rest,
  character for character;
- so two tags with one start and one version are the same tag;
- a branch is accepted for the version of the tag without a start that its rest with `.0` is, it is
  refused for its start exactly if it does not start with `release-`, and otherwise for its rest. -/
theorem names_accepted :
    (∀ start name : String,
      reason? (checkTag start name) = some "prefix" ↔ ¬ start.toList <+: name.toList) ∧
    (∀ start rest : String,
      match checkTag start (start ++ rest) with
      | .ok v => Readable rest.toList ∧ v.text = rest
      | r => ¬ Readable rest.toList ∧ reason? r = some "version") ∧
    (∀ (start m n : String) (v : ReleaseRefs.Version),
      checkTag start m = .ok v → checkTag start n = .ok v → m = n) ∧
    (∀ (name : String) (v : ReleaseRefs.Version),
      checkBranch name = .ok v ↔
        ∃ rest, name = "release-" ++ rest ∧ checkTag "" (rest ++ ".0") = .ok v) ∧
    (∀ name : String,
      reason? (checkBranch name) = some "prefix" ↔ ¬ "release-".toList <+: name.toList) ∧
    ∀ rest : String,
      reason? (checkBranch ("release-" ++ rest)) = some "version" ↔
        ¬ Readable (rest ++ ".0").toList := by
  refine ⟨reason?_checkTag_start_iff, checkTag_append, fun start m n v first second => ?_,
    checkBranch_eq_ok_iff_checkTag, reason?_checkBranch_start_iff, fun rest => ?_⟩
  · exact versionAfter_injective (checkTag_eq_ok_iff.1 first) (checkTag_eq_ok_iff.1 second)
  · have named := versionAfter_append branchStart ".0" rest
    cases read : versionAfter branchStart ".0" (branchStart ++ rest) with
    | ok v =>
      rw [read] at named
      have accepted : checkBranch ("release-" ++ rest) = .ok v := checkBranch_eq_ok_iff.2 read
      rw [accepted]
      exact iff_of_false nofun fun unread => unread named.1
    | error flaw =>
      rw [read] at named
      obtain ⟨unread, rfl⟩ := named
      exact iff_of_true (reason?_checkBranch read) unread

/-- A tag whose start is the one of branches, with a prerelease: no other tag stands for its
version. -/
theorem names_accepted_release_candidate :
    checkTag "release-" "release-1.18.0-rc" = .ok ⟨1, 18, 0, some "rc", none⟩ ∧
    ∀ m, checkTag "release-" m = .ok ⟨1, 18, 0, some "rc", none⟩ → m = "release-1.18.0-rc" := by
  have accepted : checkTag "release-" "release-1.18.0-rc" = .ok ⟨1, 18, 0, some "rc", none⟩ := by
    rfl
  exact ⟨accepted, fun m same => names_accepted.2.2.1 _ _ _ _ same accepted⟩

end ReleaseRefs.Proofs.Ref
