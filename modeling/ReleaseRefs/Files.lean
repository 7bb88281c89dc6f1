import ReleaseRefs.Path
import ReleaseRefs.Text.Utf8

/-!
# `ReleaseRefs.Files`: the files that a run can see

- `Files` has the working directory and every file and directory by its path.
- `Files.find?` looks a path up; `find?_plain`: without steps upwards it looks at that place.
- `Files.isTooLong` tells which paths the system does not look up.
- `Files.unifyLineEnds` is how the text of a file is read; `unifyLineEnds_no_return`: no carriage
  return is left.
-/

set_option autoImplicit false

namespace ReleaseRefs

/-- What stands under a path. -/
inductive FileEntry where
  | file (octets : List UInt8)
  | directory
  deriving DecidableEq, Repr

/-- The files that a run can see. -/
structure Files where
  workingDirectory : Path
  /-- Files and directories by absolute path. -/
  entries : List (Path × FileEntry)

namespace Files

/-- The parts of a path, seen from the root. -/
def partsFromRoot (fs : Files) (p : Path) : List (List Char) :=
  Path.partsOf (fs.workingDirectory.join p).text.toList

/-- The path from the root with the given parts. -/
def ofParts (parts : List (List Char)) : Path :=
  ⟨String.ofList ('/' :: List.intercalate ['/'] parts)⟩

/-- The path `d` is `p` or stands above it. -/
def isAbove (d p : Path) : Bool :=
  d.text == "/" || d == p || (d.text.toList ++ ['/']).isPrefixOf p.text.toList

/-- What stands at a place. The directories above known files exist. -/
def at? (fs : Files) (parts : List (List Char)) : Option FileEntry :=
  let q := ofParts parts
  match fs.entries.find? fun e => e.1 == q with
  | some e => some e.2
  | none =>
    let known := fs.workingDirectory :: fs.entries.map Prod.fst
    if known.any (isAbove q) then some .directory else none

/-- The place that one gets to from a place, whose parts come last part first. A step upwards is
made from directories only. -/
def walk (fs : Files) : (place : List (List Char)) → List (List Char) → Option (List (List Char))
  | place, [] => some place.reverse
  | place, part :: r =>
    if part = ['.', '.'] then
      match fs.at? place.reverse with
      | some .directory => walk fs (place.drop 1) r
      | _ => none
    else walk fs (part :: place) r

/-- What stands under a path. -/
def find? (fs : Files) (p : Path) : Option FileEntry :=
  (fs.walk [] (fs.partsFromRoot p)).bind fs.at?

/-- Something stands under the path. -/
def contains (fs : Files) (p : Path) : Bool := (fs.find? p).isSome

/-- The most octets of a path that the system looks up, and those of one part. -/
def maxPathSize : Nat := 4095
def maxPartSize : Nat := 255

/-- A walk along the parts comes to a part that is too long before it comes to a place where nothing
stands. -/
def meetsLongPart (fs : Files) : (place : List (List Char)) → List (List Char) → Bool
  | _, [] => false
  | place, part :: r =>
    if maxPartSize < Text.Utf8.octetSize part then true
    else
      let next := if part = ['.', '.'] then place.drop 1 else part :: place
      match fs.at? next.reverse with
      | some .directory => meetsLongPart fs next r
      | _ => false

/-- The system refuses to look the path up because of its length. -/
def isTooLong (fs : Files) (p : Path) : Bool :=
  (Text.Utf8.unencodableName? p.text).isNone &&
    (maxPathSize < Text.Utf8.octetSize p.text.toList || fs.meetsLongPart [] (fs.partsFromRoot p))

/-- Every line end becomes a line feed. -/
def unifyLineEnds : List Char → List Char
  | '\r' :: '\n' :: r => '\n' :: unifyLineEnds r
  | '\r' :: r => '\n' :: unifyLineEnds r
  | c :: r => c :: unifyLineEnds r
  | [] => []

/-- Without steps upwards the walk ends at the parts themselves. -/
theorem walk_plain (fs : Files) (place parts : List (List Char)) (h : ['.', '.'] ∉ parts) :
    fs.walk place parts = some (place.reverse ++ parts) := by
  induction parts generalizing place with
  | nil => simp [walk]
  | cons part r ih =>
    rw [List.mem_cons, not_or] at h
    rw [walk, if_neg (Ne.symm h.1), ih _ h.2]
    simp

/-- Under a path without steps upwards stands what is at its place. -/
theorem find?_plain (fs : Files) (p : Path) (h : ['.', '.'] ∉ fs.partsFromRoot p) :
    fs.find? p = fs.at? (fs.partsFromRoot p) := by
  simp [find?, walk_plain fs [] _ h]

/-- A text with unified line ends has no carriage return. -/
theorem unifyLineEnds_no_return (cs : List Char) : '\r' ∉ unifyLineEnds cs := by
  fun_induction unifyLineEnds cs with
  | case1 r ih => simp [ih]
  | case2 r _ ih => simp [ih]
  | case3 c r _ h ih => simp [ih, Ne.symm h]
  | case4 => simp

end Files

end ReleaseRefs
