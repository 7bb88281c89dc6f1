/-!
# `ReleaseRefs.Ref.Kind`: branches and tags

- `Kind.fullRef` puts a name into the namespace of its kind.
- `fullRef_injective`: a full ref determines kind and name, so a branch and a tag that share a name
  stay apart.
-/

set_option autoImplicit false

namespace ReleaseRefs.Ref

/-- The kinds of ref that are published. -/
inductive Kind where
  | branch
  | tag
  deriving DecidableEq, Repr

namespace Kind

def word : Kind → String
  | .branch => "branch"
  | .tag => "tag"

def ofWord? : String → Option Kind
  | "branch" => some .branch
  | "tag" => some .tag
  | _ => none

/-- Where the refs of the kind live. -/
def namespaceOf : Kind → String
  | .branch => "refs/heads/"
  | .tag => "refs/tags/"

/-- The name inside the namespace of its kind. -/
def fullRef (kind : Kind) (name : String) : String := kind.namespaceOf ++ name

/-- The message about a word that is no kind. -/
def unknownMessage (quotedWord : String) : String := quotedWord ++ " is not a valid RefKind"

/-- Kind and name can be read off a full ref. -/
theorem fullRef_injective {k l : Kind} {m n : String} (h : k.fullRef m = l.fullRef n) :
    k = l ∧ m = n := by
  have hl := congrArg String.toList h
  have heads : "refs/heads/".toList = ['r', 'e', 'f', 's', '/', 'h', 'e', 'a', 'd', 's', '/'] := rfl
  have tags : "refs/tags/".toList = ['r', 'e', 'f', 's', '/', 't', 'a', 'g', 's', '/'] := rfl
  cases k <;> cases l <;>
    simp only [fullRef, namespaceOf, String.toList_append, heads, tags] at hl
  · exact ⟨rfl, String.toList_inj.1 (List.append_cancel_left hl)⟩
  · simp at hl
  · simp at hl
  · exact ⟨rfl, String.toList_inj.1 (List.append_cancel_left hl)⟩

end Kind

end ReleaseRefs.Ref
