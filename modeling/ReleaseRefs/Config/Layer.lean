import ReleaseRefs.Value

/-!
# `ReleaseRefs.Config.Layer`: one source of settings over another

- `overlay` puts the entries of a higher layer over those of a lower one; mappings that meet are
  joined key by key, and anything else is replaced.
- `get?_insert_self`: a text key holds what was set under it.
-/

set_option autoImplicit false

namespace ReleaseRefs.Config.Layer

mutual

/-- The value of a key that both layers may have: two mappings are joined, and otherwise the higher
value stands. -/
def overlayValue (lower : Option Value) : Value → Value
  | .map es =>
    match lower with
    | some (.map ds) => .map (overlay ds es)
    | _ => .map es
  | v => v

/-- The entries of a higher layer put over those of a lower one, whose keys come first. -/
def overlay (lower : Entries) : List (Value × Value) → Entries
  | [] => lower
  | (k, v) :: r => overlay (lower.insert k (overlayValue (lower.get? k) v)) r

end

/-- Every key is a text. -/
def hasTextKeys (es : Entries) : Bool :=
  es.all fun e => match e.1 with
    | .text _ => true
    | _ => false

/-- Two texts are the same key exactly if they are equal. -/
theorem sameKey_text (s t : String) : (Value.text s).sameKey (.text t) = (s == t) := by
  simp [Value.sameKey]

/-- A text key holds what was set under it. -/
theorem get?_insert_self (es : Entries) (s : String) (v : Value) :
    (es.insert (.text s) v).get? (.text s) = some v := by
  induction es with
  | nil => simp [Entries.insert, Entries.get?, sameKey_text]
  | cons e r ih =>
    obtain ⟨k, w⟩ := e
    by_cases h : k.sameKey (.text s) = true
    · simp [Entries.insert, Entries.get?, h]
    · simp [Entries.insert, Entries.get?, h, ih]

end ReleaseRefs.Config.Layer
