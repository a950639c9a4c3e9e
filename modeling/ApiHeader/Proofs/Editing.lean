/-
# Lookups after edits

The list of types can be edited behind the back of the index. The places that the index holds
are then those of an older list: a lookup may answer with a definition of another name, or
with none although the name is declared.

Two edits see to the index themselves. Declaring a type keeps an up-to-date schema up to date,
and rebuilding the index brings any schema up to date, whatever was done to it before. What was
declared last is found in every case: its place is at the end of the list, and the index is
given that place at the same time.
-/

import ApiHeader.Proofs.TypeIndex
import ApiHeader.Schema.Edit

namespace ApiHeader.Schema

variable {schema : Schema} {definition : TypeDef} {change : Edit} {name : String}

/-- Carry out edits one after the other. -/
def editAll (schema : Schema) (edits : List Edit) : Schema :=
  edits.foldl edit schema

/-- The edits that change the index together with the list. -/
inductive Edit.Indexing : Edit → Prop
  | add (definition : TypeDef) : Indexing (.add definition)
  | rebuild : Indexing .rebuild

/-! ## One edit -/

theorem type?_addType_self (schema : Schema) (definition : TypeDef) :
    (schema.addType definition).type? definition.name = some definition := by
  simp [type?, addType, NameTable.find?_insert]

/-- The places that an up-to-date index holds lie within the list: a name in the index is
declared, so something is found at its place. -/
theorem UpToDate.place_lt (h : schema.UpToDate) {place : Nat}
    (found : schema.index.find? name = some place) : place < schema.types.length := by
  have known : schema.hasType name := by simp [hasType, NameTable.contains, found]
  obtain ⟨definition, inside, named⟩ := (h.hasType_iff name).1 known
  have answered := h.type?_eq name
  rw [type?, found, Option.bind_some] at answered
  by_contra outside
  rw [List.getElem?_eq_none (Nat.le_of_not_lt outside)] at answered
  exact lastNamed?_eq_none_iff.1 answered.symm definition inside named

theorem UpToDate.type?_addType_of_ne (h : schema.UpToDate) (differs : name ≠ definition.name) :
    (schema.addType definition).type? name = schema.type? name := by
  rw [type?, type?, addType, NameTable.find?_insert, if_neg differs]
  cases found : schema.index.find? name with
  | none => rfl
  | some place => exact List.getElem?_append_left (h.place_lt found)

theorem hasType_addType : (schema.addType definition).hasType name ↔
    name = definition.name ∨ schema.hasType name := by
  rw [hasType, hasType, NameTable.contains, NameTable.contains, addType, NameTable.find?_insert]
  split <;> simp_all

/-- Declaring a type keeps lookups in step with the list. -/
theorem UpToDate.addType (h : schema.UpToDate) (definition : TypeDef) :
    (schema.addType definition).UpToDate := by
  constructor
  · intro name
    rw [hasType_addType, h.hasType_iff]
    simp [Schema.addType, or_comm, eq_comm]
  · intro name
    change _ = lastNamed? (schema.types ++ [definition]) name
    rw [lastNamed?_append]
    split
    · next same => rw [← same, type?_addType_self]
    · next differs => rw [h.type?_addType_of_ne (Ne.symm differs), h.type?_eq]

/-- Rebuilding the index brings every schema up to date. -/
theorem upToDate_rebuildIndex (schema : Schema) : schema.rebuildIndex.UpToDate :=
  upToDate_of_indexed rfl

theorem UpToDate.edit (h : schema.UpToDate) (indexing : change.Indexing) :
    (schema.edit change).UpToDate := by
  cases indexing with
  | add definition => exact h.addType definition
  | rebuild => exact upToDate_rebuildIndex schema

/-! ## Runs of edits -/

theorem UpToDate.editAll (h : schema.UpToDate) {edits : List Edit}
    (indexing : ∀ change ∈ edits, change.Indexing) : (schema.editAll edits).UpToDate := by
  induction edits generalizing schema with
  | nil => exact h
  | cons change edits ih =>
      obtain ⟨first, others⟩ := List.forall_mem_cons.1 indexing
      exact ih (h.edit first) others

theorem editAll_append (schema : Schema) (first second : List Edit) :
    schema.editAll (first ++ second) = (schema.editAll first).editAll second :=
  List.foldl_append

/-- A schema starts up to date, whether it is new or loaded, and stays so as long as edits see
to the index. After any other edits it is up to date again once the index is rebuilt, and
without that the type that was declared last is still found. -/
theorem lookups_follow_edits :
    (∀ namePrefix, Schema.UpToDate { namePrefix }) ∧
    (∀ document schema, Schema.load document = .ok schema → schema.UpToDate) ∧
    (∀ (schema : Schema) definition, schema.UpToDate → (schema.addType definition).UpToDate) ∧
    (∀ (schema : Schema) edits, schema.UpToDate → (∀ change ∈ edits, change.Indexing) →
      (schema.editAll edits).UpToDate) ∧
    (∀ (schema : Schema) edits, (schema.editAll edits).rebuildIndex.UpToDate) ∧
    ∀ (schema : Schema) edits definition,
      (schema.editAll (edits ++ [.add definition])).type? definition.name = some definition := by
  refine ⟨fun namePrefix => upToDate_of_indexed rfl, fun document schema => upToDate_of_load,
    fun schema definition h => h.addType definition, fun schema edits h => h.editAll,
    fun schema edits => upToDate_rebuildIndex _, fun schema edits definition => ?_⟩
  rw [editAll_append]
  exact type?_addType_self (schema.editAll edits) definition

/-- Two definitions of one name and a third of another. -/
def draftDocument : String :=
  "<api><metadata><prefix><c>P</c></prefix></metadata><types>
    <enum name='A'/><struct name='A'/><bitmask name='B'/>
  </types></api>"

def draftSchema : Schema :=
  Schema.rebuildIndex
    { namePrefix := "P"
      types := [.enumeration { name := "A" }, .struct { name := "A" }, .bitmask { name := "B" }] }

/-- Direct edits that move both last definitions, so that nothing is found at the old place of
the bitmask. -/
def directEdits : List Edit :=
  [.swap 1 2, .push (.value ⟨"C", .primitive "int"⟩), .remove 0, .truncate 2]

set_option maxRecDepth 10000 in
/-- After the direct edits the bitmask is declared but not found. An enumeration of its name is
found as soon as it is declared, and the bitmask once the index is rebuilt. -/
theorem draftDocument_lookups :
    Schema.load draftDocument = .ok draftSchema ∧ draftSchema.UpToDate ∧
      (draftSchema.editAll [.add (.enumeration { name := "C" }), .rebuild]).UpToDate ∧
      ¬ (draftSchema.editAll directEdits).UpToDate ∧
      (draftSchema.editAll (directEdits ++ [.add (.enumeration { name := "B" })])).type? "B" =
        some (.enumeration { name := "B" }) ∧
      (draftSchema.editAll directEdits).rebuildIndex.UpToDate := by
  have text : Markup.events draftDocument = Markup.eventsFrom [] _ :=
    Description.events_ofList (by decide)
  have loaded : Schema.load draftDocument = .ok draftSchema := by
    rewrite [Schema.load, text]
    decide +kernel
  obtain ⟨_, load, add, indexing, rebuilt, latest⟩ := lookups_follow_edits
  have upToDate := load _ _ loaded
  refine ⟨loaded, upToDate, indexing _ _ upToDate ?_, fun stale => ?_,
    latest draftSchema directEdits (.enumeration { name := "B" }), rebuilt draftSchema directEdits⟩
  · exact List.forall_mem_cons.2 ⟨.add _, List.forall_mem_singleton.2 .rebuild⟩
  · exact absurd (stale.type?_eq "B") (by decide +kernel)

end ApiHeader.Schema
