import Mathlib.Data.List.Induction
import ReleaseRefs.Config.Layer

/-!
# `ReleaseRefs.Proofs.Config.Entries`: what is found under a text key

Settings are looked up by text keys. This module says what is found under such a key after entries
were set, and after one layer was put over another.

- `getText?_insert_self` and `getText?_insert_of_ne`: setting a key changes what is under this key
  and nothing else.
- `getText?_insertAll`: of all entries that were set under a key, the last one is found.
- `getText?_overlay`: under a key of both layers stands what the higher layer has there, joined with
  the lower one if both are mappings. It takes `Distinct`: no text is a key of the higher layer
  twice.
-/

set_option autoImplicit false

namespace ReleaseRefs.Proofs.Config

open ReleaseRefs.Config

/-! ### Text keys -/

/-- A text key is the same as itself and as no other key. -/
theorem sameKey_text_iff {k : Value} {s : String} : k.sameKey (.text s) = true ↔ k = .text s := by
  cases k with
  | text t => simp [Layer.sameKey_text]
  | _ => simp [Value.sameKey, Value.magnitude?]

theorem text_sameKey_iff {k : Value} {s : String} :
    (Value.text s).sameKey k = true ↔ k = .text s := by
  cases k with
  | text t => rw [Layer.sameKey_text, beq_iff_eq, Value.text.injEq, eq_comm]
  | _ => simp [Value.sameKey, Value.magnitude?]

/-- The text of a key. -/
def keyText? : Value → Option String
  | .text s => some s
  | _ => none

theorem keyText?_eq_some_iff {k : Value} {s : String} : keyText? k = some s ↔ k = .text s := by
  cases k <;> simp [keyText?]

/-- The keys of a mapping that are texts. -/
def textKeys (es : Entries) : List String := es.filterMap fun e => keyText? e.1

/-- No text is a key twice. -/
def Distinct (es : Entries) : Prop := (textKeys es).Nodup

theorem distinct_nil : Distinct [] := List.nodup_nil

theorem getText?_eq_none_iff {es : Entries} {s : String} :
    es.getText? s = none ↔ s ∉ textKeys es := by
  induction es with
  | nil => simp [Entries.getText?, Entries.get?, textKeys]
  | cons e r ih =>
    obtain ⟨k, v⟩ := e
    have rest : Entries.get? r (.text s) = none ↔ s ∉ textKeys r := ih
    by_cases same : k = .text s
    · subst same
      simp [Entries.getText?, Entries.get?, Layer.sameKey_text, textKeys, keyText?]
    · have other : k.sameKey (.text s) = false := by
        rw [Bool.eq_false_iff, Ne, sameKey_text_iff]
        exact same
      simp only [Entries.getText?, Entries.get?, other, Bool.false_eq_true, if_false, rest]
      simp only [textKeys, List.mem_filterMap, List.mem_cons, exists_eq_or_imp,
        keyText?_eq_some_iff, same, false_or]

theorem getText?_cons_self (s : String) (v : Value) (r : Entries) :
    Entries.getText? ((.text s, v) :: r) s = some v := by
  simp [Entries.getText?, Entries.get?, Layer.sameKey_text]

theorem getText?_cons_of_ne {k : Value} {s : String} (other : k ≠ .text s) (v : Value)
    (r : Entries) : Entries.getText? ((k, v) :: r) s = r.getText? s := by
  have notKey : k.sameKey (.text s) = false := by
    rw [Bool.eq_false_iff, Ne, sameKey_text_iff]
    exact other
  simp [Entries.getText?, Entries.get?, notKey]

theorem Distinct.tail {e : Value × Value} {r : Entries} (distinct : Distinct (e :: r)) :
    Distinct r := by
  refine List.Nodup.sublist ?_ distinct
  simp only [textKeys, List.filterMap_cons]
  cases keyText? e.1 with
  | none => exact List.Sublist.refl _
  | some t => exact List.sublist_cons_self t _

/-- The first key does not come again. -/
theorem Distinct.absent {s : String} {v : Value} {r : Entries}
    (distinct : Distinct ((.text s, v) :: r)) : r.getText? s = none :=
  getText?_eq_none_iff.2 (List.nodup_cons.1 (show (s :: textKeys r).Nodup from distinct)).1

/-! ### Setting entries -/

theorem getText?_insert_self (es : Entries) (s : String) (v : Value) :
    (es.insert (.text s) v).getText? s = some v :=
  Layer.get?_insert_self es s v

theorem getText?_insert_of_ne (es : Entries) {k : Value} {s : String} (other : k ≠ .text s)
    (v : Value) : (es.insert k v).getText? s = es.getText? s := by
  have notKey : k.sameKey (.text s) = false := by
    rw [Bool.eq_false_iff, Ne, sameKey_text_iff]
    exact other
  induction es with
  | nil => simp [Entries.insert, Entries.getText?, Entries.get?, notKey]
  | cons e r ih =>
    obtain ⟨l, w⟩ := e
    rw [Entries.insert]
    split
    · next same =>
      -- The entry that is replaced has another key as well.
      have notThis : l.sameKey (.text s) = false := by
        rw [Bool.eq_false_iff, Ne, sameKey_text_iff]
        rintro rfl
        exact other (text_sameKey_iff.1 same)
      simp [Entries.getText?, Entries.get?, notThis]
    · simp only [Entries.getText?, Entries.get?] at ih ⊢
      rw [ih]

/-- Setting a text key adds it if it was absent, and no other text key comes or goes. -/
theorem textKeys_insert (es : Entries) (k v : Value) :
    textKeys (es.insert k v) = textKeys es ∨
      ∃ s, k = .text s ∧ s ∉ textKeys es ∧ textKeys (es.insert k v) = textKeys es ++ [s] := by
  induction es with
  | nil =>
    cases k with
    | text s => exact .inr ⟨s, rfl, by simp [textKeys], rfl⟩
    | _ => exact .inl rfl
  | cons e r ih =>
    obtain ⟨l, w⟩ := e
    rw [Entries.insert]
    split
    · exact .inl rfl
    · next differ =>
      rcases ih with same | ⟨s, rfl, absent, added⟩
      · left
        simp only [textKeys, List.filterMap_cons] at same ⊢
        rw [same]
      · refine .inr ⟨s, rfl, ?_, ?_⟩
        · have notThis : keyText? l ≠ some s := by
            rw [Ne, keyText?_eq_some_iff]
            rintro rfl
            exact differ (sameKey_text_iff.2 rfl)
          simp only [textKeys, List.mem_filterMap, List.mem_cons, exists_eq_or_imp, notThis,
            false_or] at absent ⊢
          exact absent
        · simp only [textKeys, List.filterMap_cons] at added ⊢
          rw [added]
          cases keyText? l <;> rfl

theorem Distinct.insert {es : Entries} (distinct : Distinct es) (k v : Value) :
    Distinct (es.insert k v) := by
  rcases textKeys_insert es k v with same | ⟨s, -, absent, added⟩
  · rwa [Distinct, same]
  · rw [Distinct, added, List.nodup_append]
    refine ⟨distinct, by simp, ?_⟩
    rintro a member b single rfl
    exact absent (List.mem_singleton.1 single ▸ member)

theorem Distinct.insertAll {es : Entries} (distinct : Distinct es) (fs : Entries) :
    Distinct (es.insertAll fs) := by
  induction fs generalizing es with
  | nil => exact distinct
  | cons e r ih => exact ih (distinct.insert e.1 e.2)

/-- The last value under a text key. -/
def lastText? (es : Entries) (s : String) : Option Value :=
  (es.filter fun e => keyText? e.1 == some s).getLast?.map Prod.snd

/-- What was set last under a key is found there, and else what was there before. -/
theorem getText?_insertAll (es fs : Entries) (s : String) :
    (es.insertAll fs).getText? s = (lastText? fs s <|> es.getText? s) := by
  induction fs using List.reverseRecOn with
  | nil => rfl
  | append_singleton fs e ih =>
    obtain ⟨k, v⟩ := e
    have step : es.insertAll (fs ++ [(k, v)]) = (es.insertAll fs).insert k v := by
      simp [Entries.insertAll]
    rw [step]
    by_cases same : k = .text s
    · subst same
      simp [getText?_insert_self, lastText?, keyText?, List.filter_append]
    · have notKey : (keyText? k == some s) = false := by
        rw [Bool.eq_false_iff, Ne, beq_iff_eq, keyText?_eq_some_iff]
        exact same
      rw [getText?_insert_of_ne _ same, ih]
      simp [lastText?, List.filter_append, notKey]

/-- Where no text is a key twice, the last value under a text key is the only one. -/
theorem lastText?_eq_getText? {es : Entries} (distinct : Distinct es) (s : String) :
    lastText? es s = es.getText? s := by
  induction es with
  | nil => rfl
  | cons e r ih =>
    obtain ⟨k, v⟩ := e
    have rest := ih distinct.tail
    by_cases same : k = .text s
    · subst same
      have none_left : (r.filter fun e => keyText? e.1 == some s).getLast? = none := by
        rw [distinct.absent, lastText?, Option.map_eq_none_iff] at rest
        exact rest
      rw [getText?_cons_self, lastText?, List.filter_cons_of_pos (by simp [keyText?]),
        List.getLast?_cons, none_left]
      rfl
    · rw [getText?_cons_of_ne same, ← rest, lastText?, List.filter_cons_of_neg]
      · rfl
      · rw [beq_iff_eq, keyText?_eq_some_iff]
        exact same

/-! ### One layer over another -/

theorem distinct_overlay {lower : Entries} (distinct : Distinct lower) (upper : Entries) :
    Distinct (Layer.overlay lower upper) := by
  induction upper generalizing lower with
  | nil => rwa [Layer.overlay]
  | cons e r ih =>
    rw [Layer.overlay]
    exact ih (distinct.insert _ _)

/-- Under a text key stands what the higher layer has there, with the lower layer below it. -/
theorem getText?_overlay {upper : Entries} (distinct : Distinct upper) (lower : Entries)
    (s : String) :
    (Layer.overlay lower upper).getText? s =
      match upper.getText? s with
      | none => lower.getText? s
      | some v => some (Layer.overlayValue (lower.getText? s) v) := by
  induction upper generalizing lower with
  | nil => rw [Layer.overlay]; rfl
  | cons e r ih =>
    obtain ⟨k, v⟩ := e
    rw [Layer.overlay]
    by_cases same : k = .text s
    · subst same
      rw [ih distinct.tail, distinct.absent, getText?_cons_self, getText?_insert_self]
      rfl
    · rw [ih distinct.tail, getText?_cons_of_ne same, getText?_insert_of_ne _ same]

end ReleaseRefs.Proofs.Config
