/-
# The index of types

A lookup goes through the index, so it answers from whatever places the index
holds. A schema is up to date when its lookups agree with its list of types: a
name is found exactly if it is declared, and at its last definition. Declaring
types one after the other keeps a schema up to date, and since a description is
loaded in that way, so is every loaded schema.
-/

import ApiHeader.Description.Load
import ApiHeader.Proofs.Reading
import Mathlib.Data.List.Induction

namespace ApiHeader.Schema

variable {schema : Schema}

/-- The last of the given definitions that has a name. -/
def lastNamed? (types : List TypeDef) (name : String) : Option TypeDef :=
  types.reverse.find? fun definition => definition.name == name

/-- Lookups agree with the list of types. -/
structure UpToDate (schema : Schema) : Prop where
  hasType_iff : ∀ name, schema.hasType name ↔ ∃ definition ∈ schema.types, definition.name = name
  type?_eq : ∀ name, schema.type? name = lastNamed? schema.types name

/-- The index is the one that rebuilding it would give. -/
def Indexed (schema : Schema) : Prop :=
  schema.index = indexFrom 0 .empty schema.types

theorem indexFrom_append (types : List TypeDef) (definition : TypeDef) (place : Nat)
    (index : NameTable Nat) :
    indexFrom place index (types ++ [definition]) =
      (indexFrom place index types).insert definition.name (place + types.length) := by
  induction types generalizing place index with
  | nil => rfl
  | cons first rest ih =>
      rw [List.cons_append, indexFrom, indexFrom, ih, List.length_cons]
      congr 1
      omega

theorem indexed_addType (h : schema.Indexed) (definition : TypeDef) :
    (schema.addType definition).Indexed := by
  change schema.index.insert definition.name schema.types.length = _
  rw [h]
  exact ((indexFrom_append schema.types definition 0 .empty).trans (by simp)).symm

theorem lastNamed?_append (types : List TypeDef) (definition : TypeDef) (name : String) :
    lastNamed? (types ++ [definition]) name =
      if definition.name = name then some definition else lastNamed? types name := by
  simp only [lastNamed?, List.reverse_append, List.reverse_singleton, List.singleton_append,
    List.find?_cons]
  split <;> simp_all

theorem lastNamed?_eq_none_iff {types : List TypeDef} {name : String} :
    lastNamed? types name = none ↔ ∀ definition ∈ types, definition.name ≠ name := by
  simp [lastNamed?]

theorem lastNamed?_eq_some {types : List TypeDef} {name : String} {definition : TypeDef}
    (h : lastNamed? types name = some definition) :
    definition ∈ types ∧ definition.name = name := by
  constructor
  · exact List.mem_reverse.1 (List.mem_of_find?_eq_some h)
  · simpa using List.find?_some h

/-- A rebuilt index holds the place of each name's last definition, and no other
name. -/
theorem find?_indexFrom (types : List TypeDef) (name : String) :
    (lastNamed? types name = none ∧ (indexFrom 0 .empty types).find? name = none) ∨
      ∃ place definition, (indexFrom 0 .empty types).find? name = some place ∧
        types[place]? = some definition ∧ lastNamed? types name = some definition := by
  induction types using List.reverseRecOn with
  | nil => exact .inl ⟨rfl, rfl⟩
  | append_singleton types definition ih =>
      rw [indexFrom_append, NameTable.find?_insert, lastNamed?_append]
      by_cases same : definition.name = name
      · rw [if_pos same, if_pos same.symm]
        exact .inr ⟨0 + types.length, definition, rfl, by simp, rfl⟩
      · rw [if_neg same, if_neg (Ne.symm same)]
        refine ih.imp id ?_
        rintro ⟨place, older, found, there, last⟩
        obtain ⟨bound, _⟩ := List.getElem?_eq_some_iff.1 there
        exact ⟨place, older, found, by rwa [List.getElem?_append_left bound], last⟩

/-- A rebuilt index is up to date. -/
theorem upToDate_of_indexed (h : schema.Indexed) : schema.UpToDate := by
  constructor
  · intro name
    rw [hasType, NameTable.contains, h]
    rcases find?_indexFrom schema.types name with ⟨absent, unknown⟩ | ⟨place, last, found, _, named⟩
    · have none_named := lastNamed?_eq_none_iff.1 absent
      simpa [unknown] using none_named
    · simpa [found] using ⟨last, lastNamed?_eq_some named⟩
  · intro name
    rw [type?, h]
    rcases find?_indexFrom schema.types name with
      ⟨absent, unknown⟩ | ⟨place, last, found, there, named⟩
    · rw [unknown, absent]
      rfl
    · rw [found, named]
      exact there

/-- A structure that is looked up is a declared one with the name asked for. -/
theorem UpToDate.struct?_eq_some (h : schema.UpToDate) {name : String} {struct : Struct}
    (found : schema.struct? name = some struct) :
    struct ∈ schema.structs ∧ struct.name = name := by
  obtain ⟨definition, there, isStruct⟩ := Option.bind_eq_some_iff.1 found
  rw [h.type?_eq] at there
  obtain ⟨inside, named⟩ := lastNamed?_eq_some there
  cases definition <;> cases isStruct
  exact ⟨List.mem_filterMap.2 ⟨_, inside, rfl⟩, named⟩

end ApiHeader.Schema

/-! ## Loaded schemas -/

namespace ApiHeader.Description

open ApiHeader.Schema

/-- Reading types declares them one after the other. -/
theorem indexed_of_readTypes {schema result : Schema} {selfClosing : Bool}
    {events rest : List Markup.Event} (initial : schema.Indexed)
    (h : (readTypes schema selfClosing).run events = .ok (result, rest)) : result.Indexed := by
  refine children_invariant Schema.Indexed ?_ initial h
  intro schema tag reader known indexed selfClosing events result rest read
  rw [visitType] at known
  split at known
  · cases known
    obtain ⟨decided, _⟩ := run_leaf_eq_ok read
    obtain ⟨type, _, rfl⟩ := ok_of_map decided
    exact indexed_addType indexed _
  all_goals
    cases known
  all_goals
    obtain ⟨type, _, rfl⟩ := run_map_eq_ok read
    exact indexed_addType indexed _

/-- Of the sections of a description only the types touch the index. -/
theorem indexed_of_readRoot {draft : Draft} {events rest : List Markup.Event}
    (h : readRoot.run events = .ok (draft, rest)) : draft.schema.Indexed := by
  have initial : ({} : Draft).schema.Indexed := rfl
  refine children_invariant (fun draft : Draft => draft.schema.Indexed) ?_ initial h
  intro draft tag reader known indexed selfClosing events result rest read
  dsimp only [visitSection] at known
  split at known <;> cases known <;> obtain ⟨taken, content, rfl⟩ := run_map_eq_ok read
  case h_4 => exact indexed_of_readTypes indexed content
  all_goals exact indexed

theorem indexed_of_finish {draft : Draft} {schema : Schema} (h : draft.finish = .ok schema)
    (indexed : draft.schema.Indexed) : schema.Indexed := by
  rw [Draft.finish] at h
  split at h
  · split at h
    · cases h
    · cases h
      exact indexed
  · cases h

/-- The index of a loaded schema is the one that rebuilding it would give. -/
theorem indexed_of_loadEvents {schema : Schema} {events : List Markup.Event}
    (h : loadEvents events = .ok schema) : schema.Indexed := by
  induction events with
  | nil => cases h
  | cons event rest ih =>
      rcases event_cases event with filler | ⟨tag, rfl⟩ | ⟨tag, rfl⟩ | ⟨name, rfl⟩ | ⟨cause, rfl⟩
      · rw [loadEvents_filler filler] at h
        exact ih h
      · rw [loadEvents_start] at h
        obtain ⟨taken, read, finished⟩ := bind_eq_ok_iff.1 h
        exact indexed_of_finish finished (indexed_of_readRoot read)
      · cases h
      · exact ih h
      · cases h

end ApiHeader.Description

/-- Lookups in a loaded schema agree with its list of types. -/
theorem ApiHeader.Schema.upToDate_of_load {schema : Schema} {document : String}
    (h : Schema.load document = .ok schema) : schema.UpToDate :=
  upToDate_of_indexed (Description.indexed_of_loadEvents h)
