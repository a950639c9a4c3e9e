/-
# What a name stands for

Two tables answer questions about names. The renderer asks the table of kinds, which is filled
from the types, then the objects, then the function pointers, so that a later entry hides an
earlier one of its name. The search for depths asks the index of types, which holds the place
of the last definition of a name and knows neither objects nor function pointers.

The two are built apart and still agree: wherever no object and no function pointer takes a
name, it is a structure to the renderer exactly if a structure is looked up at it. A name that
one of them takes is never a structure to the renderer, even where a structure is looked up.
-/

import ApiHeader.Proofs.Rearrangement

namespace ApiHeader

open Schema

variable {schema : Schema} {resolved : Resolved}

namespace Schema

/-- In a list of entries of one kind, a name is found if some element has it as its key. -/
theorem find?_uniform {α : Type} (elements : List α) (key : α → String) (kind : EntityKind)
    (name : String) :
    ((elements.map fun element => (key element, kind)).reverse.find? fun e => e.1 == name) =
      if name ∈ elements.map key then some (name, kind) else none := by
  cases found : (elements.map fun element => (key element, kind)).reverse.find? fun e =>
      e.1 == name with
  | none =>
      rw [List.find?_eq_none] at found
      have absent : name ∉ elements.map key := by
        intro inside
        obtain ⟨element, there, rfl⟩ := List.mem_map.1 inside
        have entered := List.mem_map_of_mem (f := fun element => (key element, kind)) there
        exact found _ (List.mem_reverse.2 entered) (beq_self_eq_true _)
      rw [if_neg absent]
  | some entry =>
      have entered := List.mem_reverse.1 (List.mem_of_find?_eq_some found)
      have named : entry.1 = name := by simpa using List.find?_some found
      obtain ⟨element, there, rfl⟩ := List.mem_map.1 entered
      rw [if_pos (List.mem_map.2 ⟨element, there, named⟩), ← named]

/-- A function pointer hides an object, an object hides a type, and of types the last
definition counts. -/
theorem find?_entityKinds_eq_ite (schema : Schema) (name : String) :
    schema.entityKinds.find? name =
      if name ∈ schema.functionPointers.map Function.name then some .functionPointer
      else if name ∈ schema.objects.map Object.name then some .object
      else (lastNamed? schema.types name).map TypeDef.kind := by
  have types : ((schema.types.map fun definition => (definition.name, definition.kind)).reverse.find?
      fun e => e.1 == name) =
        (lastNamed? schema.types name).map fun definition => (definition.name, definition.kind) := by
    rw [← List.map_reverse, List.find?_map]
    rfl
  rw [find?_entityKinds, find?_uniform, find?_uniform, types]
  split
  · rfl
  · split
    · rfl
    · rw [Option.none_or, Option.none_or, Option.map_map]
      rfl

/-- A structure is looked up at a name exactly if the last definition of the name is one. -/
theorem UpToDate.isSome_struct?_iff (upToDate : schema.UpToDate) {name : String} :
    (schema.struct? name).isSome ↔
      (lastNamed? schema.types name).map TypeDef.kind = some .struct := by
  rw [struct?, upToDate.type?_eq]
  cases lastNamed? schema.types name with
  | none => simp
  | some definition => cases definition <;> simp [TypeDef.struct?, TypeDef.kind]

end Schema

theorem Resolved.kind?_eq_ite (ordered : Resolved.ofSchema schema = .ok resolved) (name : String) :
    resolved.kind? name =
      if name ∈ schema.functionPointers.map Function.name then some .functionPointer
      else if name ∈ schema.objects.map Object.name then some .object
      else (lastNamed? schema.types name).map TypeDef.kind := by
  obtain ⟨depths, _, rfl⟩ := Resolved.ofSchema_eq_ok ordered
  exact find?_entityKinds_eq_ite schema name

theorem Resolved.isStruct_reference_iff {name : String} :
    resolved.isStruct (.reference name) ↔ resolved.kind? name = some .struct :=
  decide_eq_true_iff

/-- A name stands for the function pointer of that name, else for the object, else for its
last definition. Where it is neither of the first two, the renderer takes it for a structure
exactly if one is looked up at it. -/
theorem kind_settled (upToDate : schema.UpToDate)
    (ordered : Resolved.ofSchema schema = .ok resolved) (name : String) :
    (resolved.kind? name =
      if name ∈ schema.functionPointers.map Function.name then some .functionPointer
      else if name ∈ schema.objects.map Object.name then some .object
      else (lastNamed? schema.types name).map TypeDef.kind) ∧
    (name ∉ schema.objects.map Object.name → name ∉ schema.functionPointers.map Function.name →
      resolved.isStruct (.reference name) = (schema.struct? name).isSome) ∧
    (name ∈ schema.objects.map Object.name ∨ name ∈ schema.functionPointers.map Function.name →
      resolved.isStruct (.reference name) = false) := by
  have kind := Resolved.kind?_eq_ite ordered name
  refine ⟨kind, fun noObject noPointer => ?_, fun taken => ?_⟩
  · rw [if_neg noPointer, if_neg noObject] at kind
    rw [Bool.eq_iff_iff, Resolved.isStruct_reference_iff, upToDate.isSome_struct?_iff, kind]
  · rw [← Bool.not_eq_true, Resolved.isStruct_reference_iff, kind]
    split
    · exact nofun
    · next noPointer =>
      rw [if_pos (taken.resolve_right noPointer)]
      exact nofun

/-- Names that several lists take: `A` and `B` are defined twice, an object takes `C`, and an
object and a function pointer take `D`. -/
def overlapSchema : Schema :=
  Schema.rebuildIndex
    { namePrefix := "P"
      types := [.enumeration { name := "A" }, .struct { name := "A" }, .struct { name := "B" },
        .bitmask { name := "B" }, .struct { name := "C" }, .struct { name := "D" }]
      functionPointers := [{ name := "D" }]
      objects := [{ name := "C" }, { name := "D" }] }

/-- Structures are looked up at `A` and at `C`, but only `A` is one to the renderer. -/
theorem overlapSchema_kind_settled :
    overlapSchema.UpToDate ∧ ∃ resolved, Resolved.ofSchema overlapSchema = .ok resolved ∧
      resolved.kind? "A" = some .struct ∧ resolved.kind? "B" = some .bitmask ∧
      resolved.kind? "C" = some .object ∧ resolved.kind? "D" = some .functionPointer ∧
      (overlapSchema.struct? "A").isSome ∧ resolved.isStruct (.reference "A") ∧
      (overlapSchema.struct? "C").isSome ∧ resolved.isStruct (.reference "C") = false := by
  have upToDate : overlapSchema.UpToDate := upToDate_of_indexed rfl
  have depths : overlapSchema.structDepths = .ok ⟨[("D", 0), ("C", 0), ("A", 0)]⟩ := by
    decide +kernel
  obtain ⟨resolved, ordered⟩ := Resolved.exists_ofSchema_iff.2 ⟨_, depths⟩
  obtain ⟨kindA, agreesA, _⟩ := kind_settled upToDate ordered "A"
  obtain ⟨kindB, _, _⟩ := kind_settled upToDate ordered "B"
  obtain ⟨kindC, _, takenC⟩ := kind_settled upToDate ordered "C"
  obtain ⟨kindD, _, _⟩ := kind_settled upToDate ordered "D"
  have found : (overlapSchema.struct? "A").isSome := by decide +kernel
  have found' : (overlapSchema.struct? "C").isSome := by decide +kernel
  exact ⟨upToDate, resolved, ordered, kindA.trans (by decide +kernel),
    kindB.trans (by decide +kernel), kindC.trans (by decide +kernel),
    kindD.trans (by decide +kernel), found, (agreesA (by decide) (by decide)).trans found, found',
    takenC (by decide)⟩

end ApiHeader
