/-
# What validation promises

Validation passes exactly when every category declares each of its names once, no
definition names two of its parts alike, and the depths of structures exist. Names of
different categories are never compared, so a scalar, an enumeration, a bitmask and a
structure of one name may stand side by side.
-/

import ApiHeader.Description.Content
import ApiHeader.Schema.Validation
import Mathlib.Data.List.Nodup

namespace ApiHeader.Schema

variable {schema : Schema}

theorem firstRepeatFrom?_eq_none_iff {seen names : List String} :
    firstRepeatFrom? seen names = none ↔ names.Nodup ∧ ∀ name ∈ names, name ∉ seen := by
  induction names generalizing seen with
  | nil => simp [firstRepeatFrom?]
  | cons name names ih =>
      by_cases known : name ∈ seen
      · simp [firstRepeatFrom?, known]
      · rw [firstRepeatFrom?, if_neg known, ih, List.nodup_cons, List.forall_mem_cons]
        constructor
        · rintro ⟨distinct, fresh⟩
          refine ⟨⟨fun inside => fresh name inside List.mem_cons_self, distinct⟩, known, ?_⟩
          exact fun other inside => List.not_mem_of_not_mem_cons (fresh other inside)
        · rintro ⟨⟨first, distinct⟩, _, fresh⟩
          refine ⟨distinct, fun other inside => ?_⟩
          refine List.not_mem_cons_of_ne_of_not_mem ?_ (fresh other inside)
          rintro rfl
          exact first inside

theorem firstRepeat?_eq_none_iff {names : List String} :
    firstRepeat? names = none ↔ names.Nodup := by
  simp [firstRepeat?, firstRepeatFrom?_eq_none_iff]

/-- The names of the entries or members of a definition. -/
def TypeDef.partNames : TypeDef → List String
  | .value _ => []
  | .enumeration definition | .bitmask definition => definition.entries.map Entry.name
  | .struct definition => definition.members.map Member.name

theorem checkCategory_eq_ok_iff {category : Category} :
    schema.checkCategory category = .ok () ↔ (schema.namesOf category).Nodup := by
  rw [← firstRepeat?_eq_none_iff, checkCategory]
  cases firstRepeat? (schema.namesOf category) <;> simp

theorem checkDefinition_eq_ok_iff {definition : TypeDef} :
    checkDefinition definition = .ok () ↔ definition.partNames.Nodup := by
  rw [← firstRepeat?_eq_none_iff]
  cases definition with
  | value definition => exact iff_of_true rfl rfl
  | enumeration definition =>
      rw [checkDefinition, TypeDef.partNames]
      cases firstRepeat? (definition.entries.map Entry.name) <;> simp
  | bitmask definition =>
      rw [checkDefinition, TypeDef.partNames]
      cases firstRepeat? (definition.entries.map Entry.name) <;> simp
  | struct definition =>
      rw [checkDefinition, TypeDef.partNames]
      cases firstRepeat? (definition.members.map Member.name) <;> simp

section Checks

variable {ε α : Type}

theorem forM_eq_ok_iff {check : α → Except ε Unit} {elements : List α} :
    elements.forM check = .ok () ↔ ∀ element ∈ elements, check element = .ok () := by
  induction elements with
  | nil => exact iff_of_true rfl (List.forall_mem_nil _)
  | cons first rest ih =>
      change (check first >>= fun _ => rest.forM check) = .ok () ↔ _
      rw [bind_eq_ok_iff, List.forall_mem_cons, ← ih]
      exact ⟨fun ⟨(), own, others⟩ => ⟨own, others⟩, fun ⟨own, others⟩ => ⟨(), own, others⟩⟩

end Checks

/-- Nothing is declared twice where names are compared, and structures have depths. -/
structure Valid (schema : Schema) : Prop where
  names : ∀ category, (schema.namesOf category).Nodup
  parts : ∀ definition ∈ schema.types, definition.partNames.Nodup
  depths : ∃ depths, schema.structDepths = .ok depths

theorem validate_eq_ok_iff : schema.validate = .ok () ↔ schema.Valid := by
  constructor
  · intro h
    obtain ⟨⟨⟩, typeNames, h⟩ := bind_eq_ok_iff.1 h
    obtain ⟨⟨⟩, parts, h⟩ := bind_eq_ok_iff.1 h
    obtain ⟨⟨⟩, otherNames, h⟩ := bind_eq_ok_iff.1 h
    obtain ⟨depths, found, _⟩ := bind_eq_ok_iff.1 h
    rw [forM_eq_ok_iff] at typeNames parts otherNames
    refine ⟨fun category => checkCategory_eq_ok_iff.1 ?_, fun definition inside => ?_, depths,
      found⟩
    · cases category with
      | freeFunction => exact otherNames _ (by simp)
      | functionPointer => exact otherNames _ (by simp)
      | object => exact otherNames _ (by simp)
      | _ => exact typeNames _ (by simp)
    · exact checkDefinition_eq_ok_iff.1 (parts definition inside)
  · rintro ⟨names, parts, depths, found⟩
    have named (category : Category) : schema.checkCategory category = .ok () :=
      checkCategory_eq_ok_iff.2 (names category)
    have parted : ∀ definition ∈ schema.types, checkDefinition definition = .ok () :=
      fun definition inside => checkDefinition_eq_ok_iff.2 (parts definition inside)
    refine bind_eq_ok_iff.2 ⟨(), forM_eq_ok_iff.2 fun category _ => named category, ?_⟩
    refine bind_eq_ok_iff.2 ⟨(), forM_eq_ok_iff.2 parted, ?_⟩
    refine bind_eq_ok_iff.2 ⟨(), forM_eq_ok_iff.2 fun category _ => named category, ?_⟩
    exact bind_eq_ok_iff.2 ⟨depths, found, rfl⟩

end ApiHeader.Schema
