import ReleaseRefs.Json
import ReleaseRefs.Proofs.Config.Entries

/-!
# `ReleaseRefs.Proofs.Json`: the members of JSON objects

Of two members with one name the later one takes the place of the earlier one, so an object that was
read has no name twice. All other values are no objects.

- `read_distinct`: this, for a whole text.
-/

set_option autoImplicit false

namespace ReleaseRefs.Proofs.Json

open ReleaseRefs.Proofs.Config (Distinct distinct_nil)

/-- The members that are read are set among those read before. -/
theorem readMembers_distinct {depth fuel : Nat} {acc : Entries} {cs rest : List Char} {v : Value}
    (distinct : Distinct acc) (read : Json.readMembers depth fuel acc cs = .ok (v, rest)) :
    ∃ es, v = .map es ∧ Distinct es := by
  induction fuel generalizing acc cs with
  | zero => simp [Json.readMembers] at read
  | succ fuel ih =>
    unfold Json.readMembers at read
    split at read
    · split at read
      · cases read
      · split at read
        · split at read
          · cases read
          · split at read
            · exact ih (distinct.insert _ _) read
            · cases read
              exact ⟨_, rfl, distinct.insert _ _⟩
            · cases read
        · cases read
    · cases read

/-- What is read as a list is one. -/
theorem readItems_list {depth fuel : Nat} {acc : List Value} {cs rest : List Char} {v : Value}
    (read : Json.readItems depth fuel acc cs = .ok (v, rest)) : ∃ xs, v = .list xs := by
  induction fuel generalizing acc cs with
  | zero => simp [Json.readItems] at read
  | succ fuel ih =>
    unfold Json.readItems at read
    split at read
    · cases read
    · split at read
      · exact ih read
      · cases read
        exact ⟨_, rfl⟩
      · cases read

/-- No fixed word stands for a mapping. -/
theorem readWord?_ne_map {cs rest : List Char} {es : Entries} :
    Json.readWord? cs ≠ some (.map es, rest) := by
  intro read
  obtain ⟨w, found, same⟩ := Option.map_eq_some_iff.1 read
  have member := List.mem_of_find?_eq_some found
  have value : w.2 = .map es := (Prod.mk.inj same).1
  simp only [Json.words, List.mem_cons, List.not_mem_nil, or_false] at member
  rcases member with rfl | rfl | rfl | rfl | rfl | rfl <;> cases value

theorem readNumber_ne_map {cs rest : List Char} {es : Entries} :
    Json.readNumber cs ≠ .ok (.map es, rest) := by
  intro read
  unfold Json.readNumber at read
  simp only at read
  split at read
  · cases read
  · split at read <;> split at read <;> cases read

/-- An object holds no name twice. -/
theorem readValue_distinct {depth fuel : Nat} {cs rest : List Char} {es : Entries}
    (read : Json.readValue depth fuel cs = .ok (.map es, rest)) : Distinct es := by
  cases fuel with
  | zero => simp [Json.readValue] at read
  | succ fuel =>
    unfold Json.readValue at read
    split at read
    · next r =>
      cases text : Json.readString (r.length + 1) [] r <;> simp [text, Except.map] at read
    · split at read
      · cases read
      · split at read
        · cases read
        · obtain ⟨xs, same⟩ := readItems_list read
          cases same
    · split at read
      · cases read
      · split at read
        · cases read
          exact distinct_nil
        · obtain ⟨fs, same, distinct⟩ := readMembers_distinct distinct_nil read
          exact Value.map.inj same ▸ distinct
    · split at read
      · next w word =>
        cases read
        exact absurd word readWord?_ne_map
      · exact absurd read readNumber_ne_map

/-- An object that a text holds has no name twice. -/
theorem read_distinct {s : String} {es : Entries} (read : Json.read s = .ok (.map es)) :
    Distinct es := by
  unfold Json.read at read
  simp only at read
  split at read
  · cases read
  · next v rest value =>
    split at read
    · cases read
      exact readValue_distinct value
    · cases read

end ReleaseRefs.Proofs.Json
