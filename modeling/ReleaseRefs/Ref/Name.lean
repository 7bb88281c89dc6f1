import ReleaseRefs.Ref.Kind
import ReleaseRefs.Version

/-!
# `ReleaseRefs.Ref.Name`: the grammar of release names

A release branch is `release-` and `major.minor`, a release tag a configured start and a version.

- `branchVersion`, `tagVersion` give the version that a name stands for, or its flaw.
- `Flaw.message` words the complaint about a name.
- `dropStart?_eq_some_iff`, `dropStart?_eq_none_iff` say what stands behind the start of a name.
- `branchVersion_eq`: a branch is read as the tag that its name with `.0` behind it would be.
-/

set_option autoImplicit false

namespace ReleaseRefs.Ref

/-- What is wrong with a name. -/
inductive Flaw where
  /-- It does not start as it has to. -/
  | start
  /-- What follows the start is no version. -/
  | version
  deriving DecidableEq, Repr

/-- What every release branch starts with. -/
def branchStart : String := "release-"

/-- What release tags start with unless the configuration says otherwise. -/
def defaultTagStart : String := "v"

/-- The rest of a text behind a given start. -/
def dropStart? (start s : String) : Option String :=
  if start.toList.isPrefixOf s.toList then
    some (String.ofList (s.toList.drop start.toList.length))
  else none

/-- The version that a name with the given start stands for, once `tail` is put behind it. -/
def versionAfter (start tail name : String) : Except Flaw Version :=
  match dropStart? start name with
  | none => .error .start
  | some rest =>
    match Version.parse? (rest ++ tail) with
    | none => .error .version
    | some v => .ok v

/-- The version of a release branch: the one of its name with `.0` put behind it. -/
def branchVersion (name : String) : Except Flaw Version := versionAfter branchStart ".0" name

/-- The version of a release tag. -/
def tagVersion (start name : String) : Except Flaw Version := versionAfter start "" name

def Flaw.word : Flaw → String
  | .start => "prefix"
  | .version => "version"

/-- The complaint about the name of a branch. -/
def branchMessage (name : String) : Flaw → String
  | .start => "Branch name has to start with " ++ branchStart ++ ": " ++ Text.quoted name
  | .version => "Invalid semantic version in branch name " ++ Text.quoted name ++
      ": expected " ++ branchStart ++ "<major>.<minor>"

/-- The complaint about the name of a tag. -/
def tagMessage (start name : String) : Flaw → String
  | .start => "Tag name has to start with " ++ Text.quoted start ++ ": " ++ Text.quoted name
  | .version => "Invalid semantic version in tag " ++ Text.quoted name

/-- The complaint about the text that should have been a version. -/
def versionMessage (text : String) : String :=
  Text.quoted text ++ " is not a valid semantic version"

/-- Every text starts with the empty one. -/
theorem dropStart?_empty (s : String) : dropStart? "" s = some s := by
  simp [dropStart?, String.ofList_toList]

/-- The rest of a text stands behind its start. -/
theorem dropStart?_eq_some_iff {start s rest : String} :
    dropStart? start s = some rest ↔ s = start ++ rest := by
  rw [← String.toList_inj, String.toList_append]
  unfold dropStart?
  constructor
  · intro dropped
    split at dropped
    · next starts =>
      obtain ⟨tail, same⟩ := List.isPrefixOf_iff_prefix.1 starts
      obtain rfl := Option.some.inj dropped
      rw [← same, List.drop_left, String.toList_ofList]
    · cases dropped
  · intro same
    rw [if_pos (List.isPrefixOf_iff_prefix.2 ⟨rest.toList, same.symm⟩), same, List.drop_left,
      String.ofList_toList]

/-- A text without the start has no rest behind it. -/
theorem dropStart?_eq_none_iff {start s : String} :
    dropStart? start s = none ↔ ¬ start.toList <+: s.toList := by
  simp [dropStart?, List.isPrefixOf_iff_prefix]

/-- A branch is read like a tag without a start of its own. -/
theorem branchVersion_eq (name rest : String) (h : dropStart? branchStart name = some rest) :
    branchVersion name = tagVersion "" (rest ++ ".0") := by
  simp [branchVersion, tagVersion, versionAfter, h, dropStart?_empty]

end ReleaseRefs.Ref
