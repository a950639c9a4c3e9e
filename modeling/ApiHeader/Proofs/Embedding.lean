/-
# The graph of embedded structures

A structure embeds another when one of its members has it for a type. The search
for depths walks this graph with a table of the depths found so far. This module
says what the search computes without mentioning the walk: a depth is the length
of the longest chain of embeddings, and the search fails exactly where chains are
arbitrarily long. Neither notion depends on the order in which structures are
visited, so two schemas with the same graph have the same depths.

The index of the schema is not assumed to be in step with its types here.
-/

import ApiHeader.Description.Content
import ApiHeader.Schema.Depth
import Mathlib.Data.List.Chain
import Mathlib.Data.List.Nodup
import Mathlib.Logic.Relation

namespace ApiHeader.Schema

variable {schema : Schema}

/-- A structure has a member whose type is another structure; the annotation of
the member does not matter. -/
def Embeds (schema : Schema) (outer inner : String) : Prop :=
  ∃ struct, schema.struct? outer = some struct ∧
    (∃ part ∈ struct.members, part.type = .reference inner) ∧ (schema.struct? inner).isSome

/-- A chain of embeddings of the given length starts at a structure. -/
inductive ChainFrom (schema : Schema) : String → Nat → Prop
  | single {name : String} : (schema.struct? name).isSome → ChainFrom schema name 0
  | step {outer inner : String} {length : Nat} :
      schema.Embeds outer inner → ChainFrom schema inner length →
      ChainFrom schema outer (length + 1)

/-- The length of the longest chain of embeddings that starts at a structure. -/
structure IsHeight (schema : Schema) (name : String) (height : Nat) : Prop where
  reached : schema.ChainFrom name height
  bound : ∀ length, schema.ChainFrom name length → length ≤ height

/-- The chains of embeddings that start at a name are not arbitrarily long. -/
def Bounded (schema : Schema) (name : String) : Prop :=
  ∃ height, ∀ length, schema.ChainFrom name length → length ≤ height

theorem mem_partsOf_iff {struct : Struct} {inner : String} :
    inner ∈ schema.partsOf struct ↔
      (∃ part ∈ struct.members, part.type = .reference inner) ∧ (schema.struct? inner).isSome := by
  have refers (part : Member) :
      part.type.reference? = some inner ↔ part.type = .reference inner := by
    cases part.type <;> simp [TypeRef.reference?]
  simp only [partsOf, Struct.referencedTypes, List.mem_filter, List.mem_filterMap, refers]

/-- The parts that the search visits are the structures that are embedded. -/
theorem embeds_iff {outer inner : String} {struct : Struct}
    (known : schema.struct? outer = some struct) :
    schema.Embeds outer inner ↔ inner ∈ schema.partsOf struct := by
  rw [mem_partsOf_iff]
  constructor
  · rintro ⟨other, found, embedded⟩
    obtain rfl : struct = other := Option.some.inj (known.symm.trans found)
    exact embedded
  · intro embedded
    exact ⟨struct, known, embedded⟩

theorem Embeds.isSome_outer {outer inner : String} (h : schema.Embeds outer inner) :
    (schema.struct? outer).isSome := by
  obtain ⟨struct, known, _⟩ := h
  simp [known]

theorem Embeds.isSome_inner {outer inner : String} (h : schema.Embeds outer inner) :
    (schema.struct? inner).isSome := by
  obtain ⟨_, _, _, inside⟩ := h
  exact inside

theorem ChainFrom.isSome {name : String} {length : Nat} (h : schema.ChainFrom name length) :
    (schema.struct? name).isSome := by
  cases h with
  | single inside => exact inside
  | step edge _ => exact edge.isSome_outer

theorem IsHeight.unique {name : String} {first second : Nat}
    (hfirst : schema.IsHeight name first) (hsecond : schema.IsHeight name second) :
    first = second :=
  Nat.le_antisymm (hsecond.bound _ hfirst.reached) (hfirst.bound _ hsecond.reached)

/-- What is embedded lies lower. -/
theorem IsHeight.lt_of_embeds {outer inner : String} {high low : Nat}
    (houter : schema.IsHeight outer high) (hinner : schema.IsHeight inner low)
    (edge : schema.Embeds outer inner) : low < high :=
  houter.bound _ (.step edge hinner.reached)

/-- The height of a structure is one more than that of its highest part. -/
theorem isHeight_of_parts {name : String} {struct : Struct} {height : Nat}
    (known : schema.struct? name = some struct)
    (below : ∀ part ∈ schema.partsOf struct, ∃ low, schema.IsHeight part low ∧ low < height)
    (attained : height = 0 ∨
      ∃ part ∈ schema.partsOf struct, ∃ low, schema.IsHeight part low ∧ height = low + 1) :
    schema.IsHeight name height := by
  constructor
  · rcases attained with rfl | ⟨part, inside, low, hlow, rfl⟩
    · exact .single (by simp [known])
    · exact .step ((embeds_iff known).2 inside) hlow.reached
  · intro length chain
    cases chain with
    | single _ => exact Nat.zero_le _
    | step edge rest =>
        obtain ⟨low, hlow, lt⟩ := below _ ((embeds_iff known).1 edge)
        exact Nat.lt_of_le_of_lt (hlow.bound _ rest) lt

/-! ## One step of the search -/

/-- Take the depth of one more part into account, with the chain that led to it. -/
def partStep (schema : Schema) (chain : List String) (state : Nat × Depths) (part : String) :
    Except SchemaError (Nat × Depths) := do
  let (below, depths) ← depthOf schema chain state.2 part
  return (max state.1 (below + 1), depths)

theorem depthOf_of_find? {visiting : List String} {depths : Depths} {name : String} {depth : Nat}
    (found : depths.find? name = some depth) :
    depthOf schema visiting depths name = .ok (depth, depths) := by
  rw [depthOf, found]

theorem depthOf_of_mem {visiting : List String} {depths : Depths} {name : String}
    (fresh : depths.find? name = none) (again : name ∈ visiting) :
    depthOf schema visiting depths name = .error (.circular (visiting ++ [name])) := by
  rw [depthOf, fresh]
  exact if_pos again

theorem depthOf_of_struct?_none {visiting : List String} {depths : Depths} {name : String}
    (fresh : depths.find? name = none) (outside : name ∉ visiting)
    (unknown : schema.struct? name = none) :
    depthOf schema visiting depths name = .ok (0, depths) := by
  rw [depthOf, fresh]
  simp only [if_neg outside]
  split
  · rfl
  · next struct known => simp [unknown] at known

theorem depthOf_of_struct? {visiting : List String} {depths : Depths} {name : String}
    {struct : Struct} (fresh : depths.find? name = none) (outside : name ∉ visiting)
    (known : schema.struct? name = some struct) :
    depthOf schema visiting depths name =
      (do
        let (depth, depths) ←
          (schema.partsOf struct).foldlM (partStep schema (visiting ++ [name])) (0, depths)
        return (depth, depths.insert name depth)) := by
  rw [depthOf, fresh]
  simp only [if_neg outside]
  split
  · next unknown => simp [unknown] at known
  · next other found =>
    obtain rfl : other = struct := Option.some.inj (found.symm.trans known)
    rfl

/-! ## What a search that succeeds has found -/

/-- Every depth that was known is still known. -/
def Extends (before after : Depths) : Prop :=
  ∀ name depth, before.find? name = some depth → after.find? name = some depth

theorem Extends.refl (depths : Depths) : Extends depths depths :=
  fun _ _ found => found

theorem Extends.trans {first second third : Depths}
    (h : Extends first second) (h' : Extends second third) : Extends first third :=
  fun name depth found => h' name depth (h name depth found)

/-- A depth is added for a name that had none. -/
theorem Extends.insert {before after : Depths} {name : String} (h : Extends before after)
    (fresh : before.find? name = none) (depth : Nat) :
    Extends before (after.insert name depth) := by
  intro other known found
  rw [NameTable.find?_insert]
  split
  · next same => simp [same, fresh] at found
  · exact h other known found

/-- Every depth of the table is a height. -/
def Sound (schema : Schema) (depths : Depths) : Prop :=
  ∀ name depth, depths.find? name = some depth → schema.IsHeight name depth

theorem sound_empty : schema.Sound .empty := by
  intro name depth found
  simp at found

theorem Sound.insert {depths : Depths} {name : String} {depth : Nat} (h : schema.Sound depths)
    (height : schema.IsHeight name depth) : schema.Sound (depths.insert name depth) := by
  intro other known found
  rw [NameTable.find?_insert] at found
  split at found
  · next same =>
    cases found
    exact same ▸ height
  · exact h other known found

/-- What is known of a depth that the search returns with a table: the table has
grown, and if all its depths were heights before, they still are and the returned
one is among them. -/
structure Outcome (schema : Schema) (before : Depths) (name : String) (depth : Nat)
    (after : Depths) : Prop where
  grown : Extends before after
  sound : schema.Sound before → schema.Sound after
  recorded : schema.Sound before → (schema.struct? name).isSome → after.find? name = some depth

/-- What is known of the parts of a structure after the search went through them,
with the largest depth so far to start from. -/
structure PartsOutcome (schema : Schema) (before : Depths) (parts : List String) (start : Nat)
    (depth : Nat) (after : Depths) : Prop where
  grown : Extends before after
  sound : schema.Sound before → schema.Sound after
  start_le : start ≤ depth
  below : schema.Sound before → ∀ part ∈ parts, ∃ low, after.find? part = some low ∧ low < depth
  attained : schema.Sound before → depth = start ∨
    ∃ part ∈ parts, ∃ low, after.find? part = some low ∧ depth = low + 1

theorem partStep_eq_ok {chain : List String} {state : Nat × Depths} {part : String}
    {result : Nat × Depths} (h : partStep schema chain state part = .ok result) :
    ∃ below, depthOf schema chain state.2 part = .ok (below, result.2) ∧
      result.1 = max state.1 (below + 1) := by
  obtain ⟨⟨below, depths⟩, found, same⟩ := bind_eq_ok_iff.1 h
  cases same
  exact ⟨below, found, rfl⟩

/-- Going through parts combines the outcomes of the single ones. -/
theorem partsOutcome_of_foldlM {chain parts : List String} {before after : Depths}
    {start depth : Nat}
    (each : ∀ part before below after, depthOf schema chain before part = .ok (below, after) →
      schema.Outcome before part below after)
    (structs : ∀ part ∈ parts, (schema.struct? part).isSome)
    (h : parts.foldlM (partStep schema chain) (start, before) = .ok (depth, after)) :
    schema.PartsOutcome before parts start depth after := by
  induction parts generalizing start before with
  | nil =>
      cases h
      exact ⟨.refl _, id, Nat.le_refl _, by simp, fun _ => .inl rfl⟩
  | cons part rest ih =>
      rw [List.foldlM_cons] at h
      obtain ⟨⟨larger, mid⟩, stepped, continued⟩ := bind_eq_ok_iff.1 h
      obtain ⟨low, found, largest⟩ := partStep_eq_ok stepped
      dsimp only at found largest
      have first := each part before low mid found
      have others :=
        ih (fun other inside => structs other (List.mem_cons_of_mem _ inside)) continued
      have le := others.start_le
      have kept (sound : schema.Sound before) : after.find? part = some low :=
        others.grown part low (first.recorded sound (structs part List.mem_cons_self))
      refine ⟨first.grown.trans others.grown, others.sound ∘ first.sound, by omega, ?_, ?_⟩
      · intro sound other inside
        rcases List.mem_cons.1 inside with rfl | later
        · exact ⟨low, kept sound, by omega⟩
        · exact others.below (first.sound sound) other later
      · intro sound
        rcases others.attained (first.sound sound) with same | ⟨other, inside, attained⟩
        · -- no later part lies deeper, so the depth is the old one or that of this part
          by_cases deeper : start < low + 1
          · exact .inr ⟨part, List.mem_cons_self, low, kept sound, by omega⟩
          · exact .inl (by omega)
        · exact .inr ⟨other, List.mem_cons_of_mem _ inside, attained⟩

/-- The depth that the search finds is the height of the structure. -/
theorem depthOf_outcome {visiting : List String} {before after : Depths} {name : String}
    {depth : Nat} (h : depthOf schema visiting before name = .ok (depth, after)) :
    schema.Outcome before name depth after := by
  induction visiting, before, name using depthOf.induct schema generalizing depth after with
  | case1 visiting before name known found =>
      rw [depthOf_of_find? found] at h
      cases h
      exact ⟨.refl _, id, fun _ _ => found⟩
  | case2 visiting before name fresh again =>
      rw [depthOf_of_mem fresh again] at h
      cases h
  | case3 visiting before name fresh outside unknown =>
      rw [depthOf_of_struct?_none fresh outside unknown] at h
      cases h
      exact ⟨.refl _, id, by simp [unknown]⟩
  | case4 visiting before name fresh outside struct known ih =>
      rw [depthOf_of_struct? fresh outside known] at h
      obtain ⟨⟨largest, mid⟩, searched, same⟩ := bind_eq_ok_iff.1 h
      cases same
      have parts : schema.PartsOutcome before (schema.partsOf struct) 0 depth mid := by
        refine partsOutcome_of_foldlM ?_ ?_ searched
        · intro part before below after found
          exact ih (0, before) part found
        · intro part inside
          exact (mem_partsOf_iff.1 inside).2
      have height (sound : schema.Sound before) : schema.IsHeight name depth := by
        have heights := parts.sound sound
        refine isHeight_of_parts known ?_ ?_
        · intro part inside
          obtain ⟨low, found, lt⟩ := parts.below sound part inside
          exact ⟨low, heights part low found, lt⟩
        · refine (parts.attained sound).imp id ?_
          rintro ⟨part, inside, low, found, same⟩
          exact ⟨part, inside, low, heights part low found, same⟩
      refine ⟨parts.grown.insert fresh depth, fun sound => ?_, fun _ _ => ?_⟩
      · exact (parts.sound sound).insert (height sound)
      · simp [NameTable.find?_insert]

/-! ## Why a search fails -/

/-- Names of structures each of which embeds the next. -/
abbrev Walk (schema : Schema) (path : List String) : Prop :=
  path.IsChain schema.Embeds

/-- A walk that comes back to a name it passed before. -/
structure Loop (schema : Schema) (path : List String) (last : String) : Prop where
  walk : schema.Walk (path ++ [last])
  again : last ∈ path

theorem Walk.snoc {path : List String} {outer inner : String} (h : schema.Walk (path ++ [outer]))
    (edge : schema.Embeds outer inner) : schema.Walk (path ++ [outer] ++ [inner]) := by
  refine List.isChain_append.2 ⟨h, List.isChain_singleton inner, ?_⟩
  intro before last after first
  simp only [List.getLast?_append, List.getLast?_singleton, Option.some_or, Option.mem_def,
    Option.some.injEq, List.head?_cons] at last first
  rwa [← last, ← first]

/-- A run that fails does so at some element, after those before it went well. -/
theorem exists_of_foldlM_error {α σ ε : Type} {step : σ → α → Except ε σ} {elements : List α}
    {state : σ} {cause : ε} (h : elements.foldlM step state = .error cause) :
    ∃ before element after reached, elements = before ++ element :: after ∧
      before.foldlM step state = .ok reached ∧ step reached element = .error cause := by
  induction elements generalizing state with
  | nil => cases h
  | cons element rest ih =>
      rw [List.foldlM_cons] at h
      cases stepped : step state element with
      | error other =>
          rw [stepped] at h
          cases h
          exact ⟨[], element, rest, state, rfl, rfl, stepped⟩
      | ok next =>
          rw [stepped] at h
          obtain ⟨before, failing, after, reached, rfl, went, failed⟩ := ih h
          refine ⟨element :: before, failing, after, reached, rfl, ?_, failed⟩
          rw [List.foldlM_cons, stepped]
          exact went

theorem depthOf_of_foldlM_error {chain parts : List String} {state : Nat × Depths}
    {cause : SchemaError} (h : parts.foldlM (partStep schema chain) state = .error cause) :
    ∃ part ∈ parts, ∃ depths, depthOf schema chain depths part = .error cause := by
  obtain ⟨before, part, after, reached, rfl, _, failed⟩ := exists_of_foldlM_error h
  refine ⟨part, by simp, reached.2, ?_⟩
  cases found : depthOf schema chain reached.2 part with
  | error other =>
      rw [partStep, found] at failed
      cases failed
      rfl
  | ok result =>
      rw [partStep, found] at failed
      cases failed

/-- A search fails with a loop that continues the chain which led to it and passes
no name twice before it closes. -/
theorem loop_of_depthOf_error {visiting : List String} {depths : Depths} {name : String}
    {cause : SchemaError} (h : depthOf schema visiting depths name = .error cause)
    (walk : schema.Walk (visiting ++ [name])) (distinct : visiting.Nodup) :
    ∃ path last, cause = .circular (path ++ [last]) ∧ visiting ++ [name] <+: path ++ [last] ∧
      schema.Loop path last ∧ path.Nodup := by
  induction visiting, depths, name using depthOf.induct schema with
  | case1 visiting depths name known found =>
      rw [depthOf_of_find? found] at h
      cases h
  | case2 visiting depths name fresh again =>
      rw [depthOf_of_mem fresh again] at h
      cases h
      exact ⟨visiting, name, rfl, List.prefix_refl _, ⟨walk, again⟩, distinct⟩
  | case3 visiting depths name fresh outside unknown =>
      rw [depthOf_of_struct?_none fresh outside unknown] at h
      cases h
  | case4 visiting depths name fresh outside struct known ih =>
      rw [depthOf_of_struct? fresh outside known] at h
      have failed : (schema.partsOf struct).foldlM (partStep schema (visiting ++ [name]))
          (0, depths) = .error cause := by
        generalize (schema.partsOf struct).foldlM (partStep schema (visiting ++ [name]))
          (0, depths) = searched at h
        cases searched with
        | error other => exact h
        | ok result => cases h
      obtain ⟨part, inside, others, below⟩ := depthOf_of_foldlM_error failed
      have extended : (visiting ++ [name]).Nodup := by
        simpa using List.Nodup.concat outside distinct
      obtain ⟨path, last, same, longer, loop⟩ :=
        ih (0, others) part below (walk.snoc ((embeds_iff known).2 inside)) extended
      exact ⟨path, last, same, (List.prefix_append _ _).trans longer, loop⟩

/-! ## Cycles -/

/-- A structure that embeds itself, directly or through others, can be reached from
a name. -/
def ReachesCycle (schema : Schema) (name : String) : Prop :=
  ∃ other, Relation.ReflTransGen schema.Embeds name other ∧
    Relation.TransGen schema.Embeds other other

theorem Walk.transGen {between : List String} {first last : String}
    (walk : schema.Walk (first :: (between ++ [last]))) :
    Relation.TransGen schema.Embeds first last := by
  induction between generalizing first with
  | nil => exact .single (List.isChain_cons_cons.1 walk).1
  | cons next between ih =>
      obtain ⟨edge, rest⟩ := List.isChain_cons_cons.1 walk
      exact .head edge (ih rest)

/-- The part of a loop from the name to which it comes back. -/
theorem Loop.exists_round {path : List String} {last : String} (h : schema.Loop path last) :
    ∃ entry round, path = entry ++ last :: round ∧ schema.Walk (last :: (round ++ [last])) := by
  obtain ⟨entry, round, rfl⟩ := List.append_of_mem h.again
  have walk : schema.Walk (entry ++ (last :: (round ++ [last]))) := by
    simpa using h.walk
  exact ⟨entry, round, rfl, walk.right_of_append⟩

/-- Where a loop starts, a cycle can be reached. -/
theorem Loop.reachesCycle {path : List String} {first last : String} (h : schema.Loop path last)
    (starts : [first] <+: path ++ [last]) : schema.ReachesCycle first := by
  obtain ⟨entry, round, rfl, cycle⟩ := h.exists_round
  obtain ⟨rest, same⟩ := starts
  refine ⟨last, ?_, cycle.transGen⟩
  cases entry with
  | nil =>
      obtain rfl : first = last := by simpa using congrArg List.head? same
      exact .refl
  | cons root entry =>
      obtain rfl : first = root := by simpa using congrArg List.head? same
      have whole : schema.Walk ((first :: (entry ++ [last])) ++ (round ++ [last])) := by
        simpa using h.walk
      have lead : schema.Walk (first :: (entry ++ [last])) := whole.left_of_append
      exact lead.transGen.to_reflTransGen

/-- Embeddings in front of a chain make it longer. -/
theorem ChainFrom.exists_longer {outer inner : String} {length : Nat}
    (embedded : Relation.TransGen schema.Embeds outer inner)
    (h : schema.ChainFrom inner length) : ∃ longer, length < longer ∧ schema.ChainFrom outer longer := by
  induction embedded using Relation.TransGen.head_induction_on with
  | single edge => exact ⟨length + 1, Nat.lt_succ_self _, .step edge h⟩
  | head edge _ ih =>
      obtain ⟨longer, lt, chain⟩ := ih
      exact ⟨longer + 1, Nat.lt_succ_of_lt lt, .step edge chain⟩

/-- Chains that go round a cycle are arbitrarily long. -/
theorem ReachesCycle.not_bounded {name : String} (h : schema.ReachesCycle name) :
    ¬ schema.Bounded name := by
  obtain ⟨other, reached, round⟩ := h
  have unlimited (bound : Nat) : ∃ length, bound ≤ length ∧ schema.ChainFrom other length := by
    induction bound with
    | zero =>
        obtain ⟨next, edge, _⟩ := Relation.TransGen.head'_iff.1 round
        exact ⟨0, Nat.le_refl _, .single edge.isSome_outer⟩
    | succ bound ih =>
        obtain ⟨length, le, chain⟩ := ih
        obtain ⟨longer, lt, chain⟩ := chain.exists_longer round
        exact ⟨longer, Nat.lt_of_le_of_lt le lt, chain⟩
  rintro ⟨height, bound⟩
  obtain ⟨length, le, chain⟩ := unlimited (height + 1)
  rcases Relation.reflTransGen_iff_eq_or_transGen.1 reached with rfl | path
  · exact absurd (bound _ chain) (by omega)
  · obtain ⟨longer, lt, chain⟩ := chain.exists_longer path
    exact absurd (bound _ chain) (by omega)

/-! ## All structures -/

/-- Take the depth of one more structure into account. -/
def structStep (schema : Schema) (depths : Depths) (struct : Struct) : Except SchemaError Depths :=
  (depthOf schema [] depths struct.name).map Prod.snd

/-- What is known of the table after the search went through structures. -/
theorem structDepths_fold {structs : List Struct} {before after : Depths}
    (h : structs.foldlM (structStep schema) before = .ok after) (sound : schema.Sound before) :
    Extends before after ∧ schema.Sound after ∧
      ∀ struct ∈ structs, (schema.struct? struct.name).isSome →
        ∃ depth, after.find? struct.name = some depth := by
  induction structs generalizing before with
  | nil =>
      cases h
      exact ⟨.refl _, sound, by simp⟩
  | cons struct rest ih =>
      rw [List.foldlM_cons] at h
      obtain ⟨mid, searched, continued⟩ := bind_eq_ok_iff.1 h
      cases found : depthOf schema [] before struct.name with
      | error cause => simp [structStep, found, Except.map] at searched
      | ok result =>
          obtain rfl : result.2 = mid := by simpa [structStep, found, Except.map] using searched
          have first := depthOf_outcome found
          obtain ⟨grown, heights, others⟩ := ih continued (first.sound sound)
          refine ⟨first.grown.trans grown, heights, ?_⟩
          intro other inside known
          rcases List.mem_cons.1 inside with rfl | later
          · exact ⟨result.1, grown _ _ (first.recorded sound known)⟩
          · exact others other later known

/-- The depths of a schema are heights. -/
theorem sound_of_structDepths {depths : Depths} (h : schema.structDepths = .ok depths) :
    schema.Sound depths :=
  (structDepths_fold h sound_empty).2.1

/-- Every structure that its own name finds has a depth. -/
theorem find?_of_structDepths {depths : Depths} (h : schema.structDepths = .ok depths)
    {struct : Struct} (inside : struct ∈ schema.structs)
    (known : (schema.struct? struct.name).isSome) :
    ∃ depth, depths.find? struct.name = some depth :=
  (structDepths_fold h sound_empty).2.2 struct inside known

/-- Chains from the structures that the search went through are bounded. -/
theorem bounded_of_foldlM {structs : List Struct} {depths : Depths}
    (h : structs.foldlM (structStep schema) .empty = .ok depths) {struct : Struct}
    (inside : struct ∈ structs) : schema.Bounded struct.name := by
  obtain ⟨_, sound, found⟩ := structDepths_fold h sound_empty
  by_cases known : (schema.struct? struct.name).isSome
  · obtain ⟨depth, recorded⟩ := found struct inside known
    exact ⟨depth, (sound _ _ recorded).bound⟩
  · exact ⟨0, fun length chain => absurd chain.isSome known⟩

/-- The search goes through structures as long as it succeeds, and fails with a loop
that starts at the next one. -/
theorem loop_of_structDepths_error {cause : SchemaError} (h : schema.structDepths = .error cause) :
    ∃ earlier struct later depths path last, schema.structs = earlier ++ struct :: later ∧
      earlier.foldlM (structStep schema) .empty = .ok depths ∧
      cause = .circular (path ++ [last]) ∧ [struct.name] <+: path ++ [last] ∧
      schema.Loop path last ∧ path.Nodup := by
  obtain ⟨earlier, struct, later, depths, shape, went, failed⟩ := exists_of_foldlM_error h
  cases found : depthOf schema [] depths struct.name with
  | error other =>
      obtain rfl : other = cause := by simpa [found, Except.map] using failed
      obtain ⟨path, last, same, starts, loop⟩ :=
        loop_of_depthOf_error found (List.isChain_singleton _) List.nodup_nil
      exact ⟨earlier, struct, later, depths, path, last, shape, went, same, starts, loop⟩
  | ok result => simp [found, Except.map] at failed

/-- The search succeeds on a schema unless chains of embeddings from one of its
structures are arbitrarily long. -/
theorem structDepths_eq_ok_iff :
    (∃ depths, schema.structDepths = .ok depths) ↔
      ∀ struct ∈ schema.structs, schema.Bounded struct.name := by
  constructor
  · rintro ⟨depths, found⟩ struct inside
    exact bounded_of_foldlM found inside
  · intro bounded
    cases found : schema.structDepths with
    | ok depths => exact ⟨depths, rfl⟩
    | error cause =>
        obtain ⟨earlier, struct, later, _, path, last, shape, _, _, starts, loop, _⟩ :=
          loop_of_structDepths_error found
        have inside : struct ∈ schema.structs := by simp [shape]
        exact absurd (bounded struct inside) (loop.reachesCycle starts).not_bounded

end ApiHeader.Schema
