import ReleaseRefs.Config.Basic
import ReleaseRefs.Failure

/-!
# `ReleaseRefs.Config.Assign`: changing the options of a run

The options of a run cannot be changed. Names with an underscore in front are no options: they may
be set, apart from the few by which the options themselves are held together.

- `Config.assign` sets a name.
- `assign_field`: an option is refused, whatever the value.
-/

set_option autoImplicit false

namespace ReleaseRefs.Config

/-- The name of an option as a refusal shows it. A half of a character is three octets that stand
for nothing, and each is shown by the character for that. -/
def shownName (name : String) : String :=
  String.ofList ((Text.codePoints name.toList).flatMap fun n =>
    if Text.isHalf n then List.replicate 3 '\ufffd' else Text.carry n)

/-- The names that belong to all options alike. -/
def sharedNames : List String :=
  ["__class_vars__", "__private_attributes__", "__signature__"] ++
    (["complete", "computed_fields", "core_schema", "custom_init", "decorators", "fields",
      "generic_metadata", "parent_namespace", "post_init", "root_model", "serializer",
      "setattr_handlers", "validator"].map fun part => "__pydantic_" ++ part ++ "__")

/-- The reason why a name with an underscore in front cannot be set, if there is one. -/
def heldName? (name : String) (v : Value) : Option Failure :=
  if sharedNames.contains name then
    some (.fault .attribute ("'" ++ name ++ "' is a ClassVar of `PublisherConfig` and cannot be " ++
      "set on an instance. If you want to set a value on the class, use `PublisherConfig." ++
      name ++ " = value`."))
  else match name, v with
  | "__class__", v => some (.fault .type
      ("__class__ must be set to a class, not '" ++ v.kindName ++ "' object"))
  | "__dict__", .map _ => none
  | "__dict__", v => some (.fault .type
      ("__dict__ must be set to a dictionary, not a '" ++ v.kindName ++ "'"))
  | "__weakref__", _ => some (.fault .attribute
      "attribute '__weakref__' of 'PublisherConfig' objects is not writable")
  | "__fields_set__", _ => some (.fault .attribute
      "property '__fields_set__' of 'PublisherConfig' object has no setter")
  | _, _ => none

/-- Sets a name. -/
def assign (name : String) (v : Value) : Except Failure Unit :=
  if name.toList.head? = some '_' then
    match heldName? name v with
    | some f => .error f
    | none => .ok ()
  else .error (.invalid [⟨[shownName name], .frozen, v⟩])

/-- A name of characters below the mark is shown as it is. -/
theorem shownName_plain (name : String) (h : ∀ c ∈ name.toList, c.toNat < 0x10D7FF) :
    shownName name = name := by
  have same (cs : List Char) (below : ∀ c ∈ cs, c.toNat < 0x10D7FF) :
      (cs.map Char.toNat).flatMap (fun n =>
        if Text.isHalf n then List.replicate 3 '\ufffd' else Text.carry n) = cs := by
    induction cs with
    | nil => rfl
    | cons c r ih =>
      rw [List.map_cons, List.flatMap_cons, Text.isHalf_toNat, if_neg (by simp),
        Text.carry_toNat (below c (by simp)), ih fun d hd => below d (by simp [hd])]
      rfl
  rw [shownName, Text.codePoints_plain _ h, same _ h, String.ofList_toList]

/-- An option is refused, whatever the value. -/
theorem assign_field (f : Field) (v : Value) :
    assign f.key v = .error (.invalid [⟨[f.key], .frozen, v⟩]) := by
  have below : f.key.toList.all (fun c => decide (c.toNat < 0x10D7FF)) = true := by
    cases f <;> decide
  have shown : shownName f.key = f.key :=
    shownName_plain _ fun c hc => of_decide_eq_true (List.all_eq_true.1 below c hc)
  have option : f.key.toList.head? ≠ some '_' := by cases f <;> decide
  rw [assign, if_neg option, shown]

end ReleaseRefs.Config
