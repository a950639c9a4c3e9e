/-
# What the search for depths decides

The search walks the graph of embeddings from every structure in turn, remembers
the depths it has found and keeps the chain that led to where it is. Three facts
say what comes of it, in terms of the graph alone. It fails exactly if a structure
that embeds itself can be reached from one that is declared. If it succeeds, it has
a depth for every structure that can be looked up and for nothing else, and that
depth is the length of the longest chain of embeddings. If it fails, the path it
reports is a walk from the first structure that leads to a cycle, through names that
differ, up to the name that closes the cycle.

The index may be out of step with the types, except where depths are compared with
the structures that can be looked up: a stale index can find structures under names
at which the search never starts.
-/

import ApiHeader.Proofs.Rearrangement

namespace ApiHeader.Schema

variable {schema other : Schema}

/-! ## When the search fails -/

/-- The search fails exactly if a cycle can be reached from the name of a declared
structure, and a cycle is all it can report. -/
theorem structDepths_error_iff (schema : Schema) :
    ((∃ cause, schema.structDepths = .error cause) ↔
      ∃ struct ∈ schema.structs, schema.ReachesCycle struct.name) ∧
    ∀ cause, schema.structDepths = .error cause → ∃ path, cause = .circular path := by
  refine ⟨⟨?_, ?_⟩, ?_⟩
  · rintro ⟨cause, failed⟩
    obtain ⟨earlier, struct, later, _, path, last, shape, _, _, starts, loop, _⟩ :=
      loop_of_structDepths_error failed
    exact ⟨struct, by simp [shape], loop.reachesCycle starts⟩
  · rintro ⟨struct, inside, cycle⟩
    cases found : schema.structDepths with
    | error cause => exact ⟨cause, rfl⟩
    | ok depths => exact absurd (bounded_of_foldlM found inside) cycle.not_bounded
  · intro cause failed
    obtain ⟨_, _, _, _, path, last, _, _, reported, _⟩ := loop_of_structDepths_error failed
    exact ⟨path ++ [last], reported⟩

/-! ## What a failing search reports -/

/-- The path that is reported starts at the first declared structure from which a
cycle can be reached, follows embeddings, passes no name twice and ends with a name
it has passed. -/
theorem circular_path_of_structDepths {path : List String}
    (h : schema.structDepths = .error (.circular path)) :
    ∃ names last, path = names ++ [last] ∧
      (SchemaError.circular path).message =
        "circular structure reference detected: " ++
          String.intercalate " -> " (names ++ [last]) ∧
      (∃ earlier first later, schema.structs = earlier ++ first :: later ∧
        (∀ struct ∈ earlier, ¬ schema.ReachesCycle struct.name) ∧
        schema.ReachesCycle first.name ∧ names.head? = some first.name) ∧
      schema.Walk (names ++ [last]) ∧ names.Nodup ∧
      ∃ entry round, names = entry ++ last :: round ∧
        schema.Walk (last :: (round ++ [last])) := by
  obtain ⟨earlier, first, later, depths, names, last, shape, went, reported, starts, loop,
    distinct⟩ := loop_of_structDepths_error h
  obtain rfl : path = names ++ [last] := SchemaError.circular.inj reported
  refine ⟨names, last, rfl, rfl, ⟨earlier, first, later, shape, ?_, ?_, ?_⟩, loop.walk, distinct,
    loop.exists_round⟩
  · intro struct inside cycle
    exact cycle.not_bounded (bounded_of_foldlM went inside)
  · exact loop.reachesCycle starts
  · obtain ⟨rest, same⟩ := starts
    cases names with
    | nil => cases loop.again
    | cons name names => simpa using congrArg List.head? same.symm

/-- A member that holds a structure. -/
def holding (type : String) : Member :=
  { name := "part", type := .reference type }

/-- A leaf that leads nowhere, a root outside the cycle, and two structures that
embed each other and share the leaf. -/
def tangledSchema : Schema :=
  Schema.rebuildIndex {
    types := [.struct { name := "Leaf" },
      .struct { name := "Root", members := [holding "Leaf", holding "Ring"] },
      .struct { name := "Ring", members := [holding "Leaf", holding "Knot"] },
      .struct { name := "Knot", members := [holding "Leaf", holding "Ring"] }] }

theorem tangledSchema_circular_path :
    tangledSchema.structDepths = .error (.circular ["Root", "Ring", "Knot", "Ring"]) ∧
    ∃ earlier first later, tangledSchema.structs = earlier ++ first :: later ∧
      (∀ struct ∈ earlier, ¬ tangledSchema.ReachesCycle struct.name) ∧ first.name = "Root" := by
  have failed : tangledSchema.structDepths =
      .error (.circular ["Root", "Ring", "Knot", "Ring"]) := by decide +kernel
  obtain ⟨names, last, same, _, ⟨earlier, first, later, shape, before, _, starts⟩, _⟩ :=
    circular_path_of_structDepths failed
  refine ⟨failed, earlier, first, later, shape, before, ?_⟩
  have parted : ["Root", "Ring", "Knot"] ++ ["Ring"] = names ++ [last] := same
  obtain ⟨rfl, _⟩ := List.append_inj' parted rfl
  exact (Option.some.inj starts).symm

/-! ## What a search that succeeds has found -/

theorem isHeight_zero_iff {name : String} :
    schema.IsHeight name 0 ↔
      (schema.struct? name).isSome ∧ ∀ inner, ¬ schema.Embeds name inner := by
  constructor
  · intro height
    refine ⟨height.reached.isSome, fun inner edge => ?_⟩
    have long := height.bound 1 (.step edge (.single edge.isSome_inner))
    omega
  · rintro ⟨known, leaf⟩
    refine ⟨.single known, fun length chain => ?_⟩
    cases chain with
    | single _ => exact Nat.le_refl 0
    | step edge _ => exact absurd edge (leaf _)

/-- Lookups of structures see the last definition of each name only. -/
theorem struct?_eq_of_lastNamed? (upToDate : schema.UpToDate) (upToDate' : other.UpToDate)
    (same : ∀ name, lastNamed? other.types name = lastNamed? schema.types name) :
    schema.struct? = other.struct? := by
  funext name
  rw [struct?, struct?, upToDate.type?_eq, upToDate'.type?_eq, same]

/-- Where the search succeeds, exactly the structures that can be looked up have a
depth, and it is the length of the longest chain of embeddings below them. Any other
list of types in which every name has the same last definition gives the same
depths. -/
theorem depths_eq_longest_chains {depths : Depths} (upToDate : schema.UpToDate)
    (found : schema.structDepths = .ok depths) :
    (∀ name, depths.contains name ↔ (schema.struct? name).isSome) ∧
    (∀ name depth, depths.find? name = some depth → schema.IsHeight name depth) ∧
    (∀ name, depths.find? name = some 0 ↔
      (schema.struct? name).isSome ∧ ∀ inner, ¬ schema.Embeds name inner) ∧
    ∀ other : Schema, other.UpToDate →
      (∀ name, lastNamed? other.types name = lastNamed? schema.types name) →
      ∃ depths', other.structDepths = .ok depths' ∧
        ∀ name, depths'.find? name = depths.find? name := by
  refine ⟨?_, sound_of_structDepths found, ?_, ?_⟩
  · intro name
    rw [NameTable.contains, Option.isSome_iff_exists]
    constructor
    · rintro ⟨depth, recorded⟩
      exact (sound_of_structDepths found name depth recorded).reached.isSome
    · exact exists_find?_of_structDepths upToDate found
  · intro name
    rw [find?_structDepths_iff upToDate found, isHeight_zero_iff]
  · intro other upToDate' same
    have lookups := struct?_eq_of_lastNamed? upToDate upToDate' same
    obtain ⟨depths', found'⟩ : ∃ depths', other.structDepths = .ok depths' := by
      refine exists_structDepths_congr lookups (fun struct _ known => ?_) ⟨depths, found⟩
      rw [← lookups] at known
      obtain ⟨own, there⟩ := Option.isSome_iff_exists.1 known
      exact ⟨own, upToDate.struct?_eq_some there⟩
    refine ⟨depths', found', fun name => Option.ext fun depth => ?_⟩
    rw [find?_structDepths_iff upToDate' found', find?_structDepths_iff upToDate found]
    exact ⟨fun height => height.congr lookups.symm, fun height => height.congr lookups⟩

/-- The types of the scene in another order, behind a definition of the vector that
is not its last and would close a cycle. -/
def relistedSchema : Schema :=
  Schema.rebuildIndex {
    types := [.struct { name := "Vec", members := [holding "Scene"] }, .struct poseStruct,
      .struct vecStruct, .struct sceneStruct] }

theorem lastNamed?_relistedSchema (name : String) :
    lastNamed? relistedSchema.types name = lastNamed? sceneSchema.types name := by
  by_cases known : name ∈ ["Scene", "Pose", "Vec"]
  · revert name
    decide +kernel
  · have absent (types : List TypeDef)
        (names : types.map TypeDef.name ⊆ ["Scene", "Pose", "Vec"]) :
        lastNamed? types name = none := by
      refine lastNamed?_eq_none_iff.2 fun definition inside same => known ?_
      exact names (List.mem_map.2 ⟨definition, inside, same⟩)
    rw [absent relistedSchema.types (by decide +kernel), absent sceneSchema.types (by decide +kernel)]

theorem sceneSchema_depths_eq_longest_chains :
    sceneSchema.UpToDate ∧ sceneSchema.structDepths = .ok sceneDepths ∧ relistedSchema.UpToDate ∧
    sceneSchema.IsHeight "Scene" 2 ∧
    ∃ depths, relistedSchema.structDepths = .ok depths ∧ depths.find? "Scene" = some 2 := by
  have upToDate : sceneSchema.UpToDate := upToDate_of_indexed rfl
  have upToDate' : relistedSchema.UpToDate := upToDate_of_indexed rfl
  have found : sceneSchema.structDepths = .ok sceneDepths := by decide +kernel
  have deepest : sceneDepths.find? "Scene" = some 2 := by decide +kernel
  obtain ⟨_, heights, _, reordered⟩ := depths_eq_longest_chains upToDate found
  obtain ⟨depths, found', same⟩ := reordered relistedSchema upToDate' lastNamed?_relistedSchema
  exact ⟨upToDate, found, upToDate', heights _ _ deepest, depths, found', (same _).trans deepest⟩

end ApiHeader.Schema
