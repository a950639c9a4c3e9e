/-
# Nesting depth of structures

A structure without structures among its members has depth zero; every other one
lies one above its deepest part. The depths already found are carried along, and
so is the chain of structures whose depth is being sought: meeting one of them
again means that structures contain each other. Each step of the search takes one
more name of the index into that chain, so the search ends.
-/

import ApiHeader.Schema.Basic
import ApiHeader.Schema.Error

namespace ApiHeader.Schema

/-- The depths found so far. -/
abbrev Depths := NameTable Nat

/-- The member types of a structure that are structures themselves. -/
def partsOf (schema : Schema) (struct : Struct) : List String :=
  struct.referencedTypes.filter fun name => (schema.struct? name).isSome

/-- How many entries of the index name no structure of the chain. -/
def unvisited (schema : Schema) (visiting : List String) : Nat :=
  (schema.index.names.filter fun name => decide (name ∉ visiting)).length

theorem mem_index_of_struct? {schema : Schema} {name : String} {struct : Struct}
    (h : schema.struct? name = some struct) : name ∈ schema.index.names := by
  obtain ⟨definition, found, _⟩ := Option.bind_eq_some_iff.1 h
  obtain ⟨place, inIndex, _⟩ := Option.bind_eq_some_iff.1 found
  exact NameTable.mem_names_of_find? inIndex

private theorem length_filter_lt {names visiting : List String} {name : String}
    (inside : name ∈ names) (fresh : name ∉ visiting) :
    (names.filter fun other => decide (other ∉ visiting ++ [name])).length <
      (names.filter fun other => decide (other ∉ visiting)).length := by
  have split (other : String) : decide (other ∉ visiting ++ [name]) =
      (decide (other ≠ name) && decide (other ∉ visiting)) := by
    by_cases same : other = name <;> by_cases old : other ∈ visiting <;> simp [same, old]
  rw [List.filter_congr fun other _ => split other, ← List.filter_filter]
  refine List.length_filter_lt_length_iff_exists.2 ⟨name, ?_, by simp⟩
  exact List.mem_filter.2 ⟨inside, by simpa using fresh⟩

theorem unvisited_lt {schema : Schema} {visiting : List String} {name : String} {struct : Struct}
    (known : schema.struct? name = some struct) (fresh : name ∉ visiting) :
    schema.unvisited (visiting ++ [name]) < schema.unvisited visiting :=
  length_filter_lt (mem_index_of_struct? known) fresh

/-- The depth of a structure, given the chain of structures that led to it, and
the depths known afterwards. A name that is no structure has depth zero and is
not remembered. -/
def depthOf (schema : Schema) (visiting : List String) (depths : Depths) (name : String) :
    Except SchemaError (Nat × Depths) :=
  match depths.find? name with
  | some depth => .ok (depth, depths)
  | none =>
    if name ∈ visiting then .error (.circular (visiting ++ [name]))
    else
      match _ : schema.struct? name with
      | none => .ok (0, depths)
      | some struct => do
        let (depth, depths) ← (schema.partsOf struct).foldlM
          (fun (state : Nat × Depths) part => do
            let (below, depths) ← depthOf schema (visiting ++ [name]) state.2 part
            return (max state.1 (below + 1), depths))
          (0, depths)
        return (depth, depths.insert name depth)
termination_by schema.unvisited visiting
decreasing_by exact unvisited_lt ‹_› ‹_›

/-- The depths of all structures. -/
def structDepths (schema : Schema) : Except SchemaError Depths :=
  schema.structs.foldlM
    (fun depths struct => (depthOf schema [] depths struct.name).map Prod.snd) .empty

/-- The names of all structures, by depth and then by name; a name without a depth
counts as depth zero. -/
def structOrder (schema : Schema) (depths : Depths) : List String :=
  let depth := fun name => (depths.find? name).getD 0
  let byName := (schema.structs.map Struct.name).mergeSort fun a b => a ≤ b
  byName.mergeSort fun a b => depth a ≤ depth b

end ApiHeader.Schema
