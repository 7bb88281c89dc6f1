import ReleaseRefs.Text.Split

/-!
# `ReleaseRefs.Path`: file paths in normal form

A path is kept as text in which no two slashes meet, no part is a single dot, and no slash ends it.
Exactly two slashes at the front are a root of their own; the parts `..` stay.

- `Path.ofText` brings a text into this form; `Path.join` puts one path behind another.
- `mem_partsOf`: a part that counts is neither empty nor a single dot.
-/

set_option autoImplicit false

namespace ReleaseRefs

/-- A file path. -/
structure Path where
  text : String
  deriving DecidableEq, Repr, Inhabited

namespace Path

/-- The root that a text starts with: none, one slash, or exactly two. -/
def rootOf : List Char → List Char
  | '/' :: '/' :: '/' :: _ => ['/']
  | '/' :: '/' :: _ => ['/', '/']
  | '/' :: _ => ['/']
  | _ => []

/-- The parts between slashes that mean something. -/
def partsOf (cs : List Char) : List (List Char) :=
  (Text.splitAt '/' cs).filter fun part => !part.isEmpty && part != ['.']

/-- The path that a text names; the empty text names the current directory. -/
def ofText (s : String) : Path :=
  let cs := s.toList
  let body := rootOf cs ++ List.intercalate ['/'] (partsOf cs)
  ⟨if body.isEmpty then "." else String.ofList body⟩

/-- The path starts at a root. -/
def isAbsolute (p : Path) : Bool := p.text.toList.head? == some '/'

/-- The path `q` seen from `p`: an absolute `q` stands alone. -/
def join (p q : Path) : Path :=
  if q.isAbsolute then q else ofText (p.text ++ "/" ++ q.text)

/-- A part that counts is neither empty nor a single dot. -/
theorem mem_partsOf {cs part : List Char} (h : part ∈ partsOf cs) : part ≠ [] ∧ part ≠ ['.'] := by
  have kept := (List.mem_filter.1 h).2
  constructor <;> rintro rfl <;> simp at kept

instance : ToString Path := ⟨Path.text⟩

end Path

end ReleaseRefs
