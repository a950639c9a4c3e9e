/-
# Runs of the search for depths

The search for depths calls itself for the parts of a structure. All its calls share the table
of depths and one list of the structures in progress: a call puts its structure at the end of
the list, and takes it away again once the depth is found. Here the search is a machine that
takes one step at a time, with these two and the structures that wait for a part as its state.

A step keeps the list, adds a name to it or takes the last one away, and no step breaks one
invariant: the list is the one that the search began with, followed by the structures that are
open, without repetitions, and no open structure has a depth yet. So the list cannot outgrow
the index, it is as before once no structure is open, and a depth is only ever entered for a
name that had none. Every run ends, and with the outcome of the search, since it follows the
calls of the search one by one.

Nothing is asked of the schema: structures may contain each other, and the index may be out of
step with the types.
-/

import ApiHeader.Proofs.Embedding
import Mathlib.Computability.StateTransition
import Mathlib.Data.List.Dedup

namespace ApiHeader.Schema

open StateTransition (Reaches)

/-! ## The machine -/

/-- A structure whose parts are being gone through. -/
structure OpenStruct where
  name : String
  /-- The depth as far as it is known from the parts so far. -/
  depth : Nat
  /-- The types of the members that come next. -/
  left : List String

/-- What a search does next. -/
inductive Phase
  /-- Find the depth of a name. -/
  | seeking (name : String)
  /-- Go on with the parts of a structure. -/
  | passing (struct : OpenStruct)
  /-- Return a depth to the structure that waits for it. -/
  | found (depth : Nat)
  | failed (cause : SchemaError)

/-- A search at one moment. -/
structure Search where
  phase : Phase
  /-- The structures that wait for the depth of a part, the innermost first. -/
  waiting : List OpenStruct
  /-- The names of the structures in progress. -/
  visiting : List String
  depths : Depths

namespace Search

/-- A search that has been asked for a depth. -/
def start (visiting : List String) (depths : Depths) (name : String) : Search :=
  { phase := .seeking name, waiting := [], visiting, depths }

/-- One step of a search, unless it has ended. -/
def step (schema : Schema) (search : Search) : Option Search :=
  match search.phase with
  | .seeking name =>
    match search.depths.find? name with
    | some depth => some { search with phase := .found depth }
    | none =>
      if name ∈ search.visiting then
        some { search with phase := .failed (.circular (search.visiting ++ [name])) }
      else
        match schema.struct? name with
        | none => some { search with phase := .found 0 }
        | some struct =>
          some { search with
            phase := .passing { name, depth := 0, left := struct.referencedTypes }
            visiting := search.visiting ++ [name] }
  | .passing struct =>
    match struct.left with
    | [] =>
      some { search with
        phase := .found struct.depth
        visiting := search.visiting.dropLast
        depths := search.depths.insert struct.name struct.depth }
    | part :: left =>
      if (schema.struct? part).isSome then
        some { search with
          phase := .seeking part
          waiting := { struct with left } :: search.waiting }
      else some { search with phase := .passing { struct with left } }
  | .found depth =>
    match search.waiting with
    | [] => none
    | struct :: waiting =>
      some { search with
        phase := .passing { struct with depth := max struct.depth (depth + 1) }
        waiting }
  | .failed _ => none

/-- What a search that has ended comes to. -/
def outcome? (search : Search) : Option (Except SchemaError (Nat × Depths)) :=
  match search.phase, search.waiting with
  | .found depth, [] => some (.ok (depth, search.depths))
  | .failed cause, _ => some (.error cause)
  | _, _ => none

/-- The structures that the search has entered and not left, the outermost first. -/
def opened (search : Search) : List String :=
  match search.phase with
  | .passing struct => (search.waiting.map OpenStruct.name).reverse ++ [struct.name]
  | _ => (search.waiting.map OpenStruct.name).reverse

variable {schema : Schema} {search next : Search} {visiting : List String} {depths : Depths}

theorem outcome?_cases {outcome : Except SchemaError (Nat × Depths)}
    (h : search.outcome? = some outcome) :
    (∃ depth, search.phase = .found depth ∧ search.waiting = [] ∧
      outcome = .ok (depth, search.depths)) ∨
    ∃ cause, search.phase = .failed cause ∧ outcome = .error cause := by
  rw [outcome?] at h
  split at h
  · next depth found none =>
    cases h
    exact .inl ⟨depth, found, none, rfl⟩
  · next cause failed =>
    cases h
    exact .inr ⟨cause, failed, rfl⟩
  · cases h

theorem step_eq_none_of_outcome? {outcome : Except SchemaError (Nat × Depths)}
    (h : search.outcome? = some outcome) : search.step schema = none := by
  rcases outcome?_cases h with ⟨depth, found, none, _⟩ | ⟨cause, failed, _⟩
  · simp only [step, found, none]
  · simp only [step, failed]

theorem opened_eq_nil_of_outcome? {depth : Nat} {after : Depths}
    (h : search.outcome? = some (.ok (depth, after))) :
    search.opened = [] ∧ search.depths = after := by
  rcases outcome?_cases h with ⟨_, found, none, same⟩ | ⟨_, _, same⟩
  · cases same
    exact ⟨by simp [opened, found, none], rfl⟩
  · cases same

/-! ## What a step does to the structures in progress -/

/-- The change that a step makes to the structures in progress and to the depths. -/
inductive Change (schema : Schema) (search next : Search) : Prop
  | keeps (visiting : next.visiting = search.visiting) (depths : next.depths = search.depths)
      (opened : next.opened = search.opened)
  | enters (name : String) (fresh : name ∉ search.visiting)
      (unsettled : search.depths.find? name = none) (known : (schema.struct? name).isSome)
      (visiting : next.visiting = search.visiting ++ [name]) (depths : next.depths = search.depths)
      (opened : next.opened = search.opened ++ [name])
  | leaves (name : String) (depth : Nat) (visiting : next.visiting = search.visiting.dropLast)
      (depths : next.depths = search.depths.insert name depth)
      (opened : search.opened = next.opened ++ [name])

theorem change_of_step (h : search.step schema = some next) : Change schema search next := by
  obtain ⟨phase, waiting, visiting, depths⟩ := search
  cases phase with
  | seeking name =>
      dsimp only [step] at h
      split at h
      · cases h
        exact .keeps rfl rfl rfl
      · next unsettled =>
        split at h
        · cases h
          exact .keeps rfl rfl rfl
        · next fresh =>
          split at h
          · cases h
            exact .keeps rfl rfl rfl
          · next struct known =>
            cases h
            exact .enters name fresh unsettled (Option.isSome_of_eq_some known) rfl rfl rfl
  | passing struct =>
      dsimp only [step] at h
      split at h
      · cases h
        exact .leaves struct.name struct.depth rfl rfl rfl
      · split at h
        · cases h
          exact .keeps rfl rfl (by simp [opened])
        · cases h
          exact .keeps rfl rfl rfl
  | found depth =>
      dsimp only [step] at h
      split at h
      · cases h
      · cases h
        exact .keeps rfl rfl (by simp [opened])
  | failed cause => cases h

/-- What holds at every moment of a search that began with some structures in progress and
some depths. -/
structure Consistent (schema : Schema) (visiting : List String) (depths : Depths)
    (search : Search) : Prop where
  chain : search.visiting = visiting ++ search.opened
  distinct : search.visiting.Nodup
  known : ∀ name ∈ search.opened, (schema.struct? name).isSome
  unsettled : ∀ name ∈ search.opened, search.depths.find? name = none
  grown : Extends depths search.depths

namespace Consistent

theorem start (distinct : visiting.Nodup) (name : String) :
    Consistent schema visiting depths (.start visiting depths name) where
  chain := (List.append_nil visiting).symm
  distinct := distinct
  known := List.forall_mem_nil _
  unsettled := List.forall_mem_nil _
  grown := .refl depths

theorem nodup_opened (h : Consistent schema visiting depths search) : search.opened.Nodup :=
  (h.chain ▸ h.distinct).of_append_right

/-- No step breaks what holds. -/
theorem step (h : Consistent schema visiting depths search)
    (stepped : search.step schema = some next) : Consistent schema visiting depths next := by
  cases change_of_step stepped with
  | keeps sameVisiting sameDepths sameOpened =>
      constructor
      · rw [sameVisiting, sameOpened, h.chain]
      · rw [sameVisiting]
        exact h.distinct
      · rw [sameOpened]
        exact h.known
      · rw [sameOpened, sameDepths]
        exact h.unsettled
      · rw [sameDepths]
        exact h.grown
  | enters name fresh unsettled known longer sameDepths entered =>
      constructor
      · rw [longer, entered, h.chain, List.append_assoc]
      · rw [longer]
        exact List.nodup_append.2 ⟨h.distinct, List.nodup_singleton name, by grind⟩
      · rw [entered]
        exact List.forall_mem_append.2 ⟨h.known, List.forall_mem_singleton.2 known⟩
      · rw [entered, sameDepths]
        exact List.forall_mem_append.2 ⟨h.unsettled, List.forall_mem_singleton.2 unsettled⟩
      · rw [sameDepths]
        exact h.grown
  | leaves name depth shorter settled left =>
      have distinct : (next.opened ++ [name]).Nodup := by
        rw [← left]
        exact h.nodup_opened
      have own : search.depths.find? name = none := h.unsettled name (by simp [left])
      constructor
      · rw [shorter, h.chain, left, ← List.append_assoc, List.dropLast_concat]
      · rw [shorter]
        exact h.distinct.sublist (List.dropLast_sublist _)
      · intro other inside
        exact h.known other (by simp [left, inside])
      · intro other inside
        -- the structure that is left was entered once, so the others keep having no depth
        have differs : other ≠ name :=
          (List.nodup_append.1 distinct).2.2 other inside name (List.mem_singleton_self name)
        rw [settled, NameTable.find?_insert, if_neg differs]
        exact h.unsettled other (by simp [left, inside])
      · rw [settled]
        refine h.grown.insert (Option.eq_none_iff_forall_ne_some.2 fun old before => ?_) depth
        rw [h.grown name old before] at own
        cases own

/-- What holds at the start of a run holds throughout. -/
theorem reaches (h : Consistent schema visiting depths search)
    (run : Reaches (Search.step schema) search next) : Consistent schema visiting depths next := by
  induction run with
  | refl => exact h
  | tail _ stepped ih => exact ih.step stepped

/-- The structures that were added are different names of the index. -/
theorem length_opened_le (h : Consistent schema visiting depths search) :
    search.opened.length ≤ schema.index.names.dedup.length := by
  refine (h.nodup_opened.subperm fun name inside => List.mem_dedup.2 ?_).length_le
  obtain ⟨struct, known⟩ := Option.isSome_iff_exists.1 (h.known name inside)
  exact mem_index_of_struct? known

end Consistent

/-! ## Runs follow the calls of the search -/

variable {α β : Type}

/-- A run follows a computation: it gets to the moment that belongs to its value, or to a
failure with its error. -/
structure Follows (schema : Schema) (search : Search) (outcome : Except SchemaError α)
    (moment : α → Search) : Prop where
  ok : ∀ value, outcome = .ok value → Reaches (step schema) search (moment value)
  error : ∀ cause, outcome = .error cause →
    ∃ stopped, Reaches (step schema) search stopped ∧ stopped.phase = .failed cause

namespace Follows

theorem pure {moment : α → Search} (value : α) (here : search = moment value) :
    Follows schema search (.ok value) moment where
  ok other same := by
    cases same
    rw [here]
    exact .refl
  error cause failed := by cases failed

theorem fail {cause : SchemaError} {moment : α → Search} (here : search.phase = .failed cause) :
    Follows schema search (.error cause) moment where
  ok value found := by cases found
  error other same := by
    cases same
    exact ⟨search, .refl, here⟩

theorem after_step {outcome : Except SchemaError α} {moment : α → Search}
    (stepped : search.step schema = some next) (h : Follows schema next outcome moment) :
    Follows schema search outcome moment where
  ok value found := .head stepped (h.ok value found)
  error cause failed := by
    obtain ⟨stopped, run, ended⟩ := h.error cause failed
    exact ⟨stopped, .head stepped run, ended⟩

theorem bind {first : Except SchemaError α} {second : α → Except SchemaError β}
    {halfway : α → Search} {moment : β → Search} (h : Follows schema search first halfway)
    (h' : ∀ value, Follows schema (halfway value) (second value) moment) :
    Follows schema search (first >>= second) moment := by
  cases first with
  | error cause =>
      constructor
      · intro result found
        cases found
      · intro other failed
        cases failed
        exact h.error cause rfl
  | ok value =>
      have run := h.ok value rfl
      constructor
      · intro result found
        exact run.trans ((h' value).ok result found)
      · intro cause failed
        obtain ⟨stopped, rest, ended⟩ := (h' value).error cause failed
        exact ⟨stopped, run.trans rest, ended⟩

end Follows

/-- The parts of a structure are gone through as the search does, if each part is. -/
theorem follows_parts {chain : List String}
    (each : ∀ part depths waiting,
      Follows schema ⟨.seeking part, waiting, chain, depths⟩ (depthOf schema chain depths part)
        fun result => ⟨.found result.1, waiting, chain, result.2⟩)
    (waiting : List OpenStruct) (name : String) (left : List String) (depth : Nat)
    (depths : Depths) :
    Follows schema ⟨.passing ⟨name, depth, left⟩, waiting, chain, depths⟩
      ((left.filter fun part => (schema.struct? part).isSome).foldlM (partStep schema chain)
        (depth, depths))
      fun result => ⟨.passing ⟨name, result.1, []⟩, waiting, chain, result.2⟩ := by
  induction left generalizing depth depths with
  | nil => exact .pure (depth, depths) rfl
  | cons part left ih =>
      by_cases known : (schema.struct? part).isSome
      · rw [List.filter_cons, if_pos known, List.foldlM_cons]
        refine .after_step (if_pos known) (.bind ?_ fun result => ih result.1 result.2)
        -- the depth of the part comes back to the structure, which goes on with the next part
        exact (each part depths _).bind fun result => .after_step rfl (.pure _ rfl)
      · rw [List.filter_cons, if_neg known]
        exact .after_step (if_neg known) (ih depth depths)

/-- A run follows the search, whatever waits for its depth. -/
theorem follows_depthOf (schema : Schema) (visiting : List String) (depths : Depths)
    (name : String) (waiting : List OpenStruct) :
    Follows schema ⟨.seeking name, waiting, visiting, depths⟩
      (depthOf schema visiting depths name)
      fun result => ⟨.found result.1, waiting, visiting, result.2⟩ := by
  induction visiting, depths, name using depthOf.induct schema generalizing waiting with
  | case1 visiting depths name depth settled =>
      rw [depthOf_of_find? settled]
      exact .after_step (by simp only [step, settled]) (.pure _ rfl)
  | case2 visiting depths name unsettled again =>
      rw [depthOf_of_mem unsettled again]
      have refused : step schema ⟨.seeking name, waiting, visiting, depths⟩ =
          some ⟨.failed (.circular (visiting ++ [name])), waiting, visiting, depths⟩ := by
        simp only [step, unsettled, if_pos again]
      exact .after_step refused (.fail rfl)
  | case3 visiting depths name unsettled fresh unknown =>
      rw [depthOf_of_struct?_none unsettled fresh unknown]
      exact .after_step (by simp only [step, unsettled, if_neg fresh, unknown]) (.pure _ rfl)
  | case4 visiting depths name unsettled fresh struct known ih =>
      rw [depthOf_of_struct? unsettled fresh known]
      have entered : step schema ⟨.seeking name, waiting, visiting, depths⟩ =
          some ⟨.passing ⟨name, 0, struct.referencedTypes⟩, waiting, visiting ++ [name],
            depths⟩ := by
        simp only [step, unsettled, if_neg fresh, known]
      have parts := follows_parts (fun part depths => ih (0, depths) part) waiting name
        struct.referencedTypes 0 depths
      refine .after_step entered (parts.bind fun result => .after_step rfl (.pure _ ?_))
      rw [List.dropLast_concat]

/-! ## Every run ends as the search does -/

theorem exists_outcome?_of_reaches (schema : Schema) (visiting : List String) (depths : Depths)
    (name : String) :
    ∃ final, Reaches (step schema) (start visiting depths name) final ∧
      final.outcome? = some (depthOf schema visiting depths name) := by
  have follows := follows_depthOf schema visiting depths name []
  cases outcome : depthOf schema visiting depths name with
  | ok result => exact ⟨_, follows.ok result outcome, rfl⟩
  | error cause =>
      obtain ⟨stopped, run, failed⟩ := follows.error cause outcome
      exact ⟨stopped, run, by simp only [outcome?, failed]⟩

end Search

/-- The search for a depth ends, from any structures in progress without repetitions and any
depths. Up to then the structures in progress stay without repetitions and are never more than
the different names of the index above those of the start. If a depth is returned, they are
those of the start, and no depth that was known has changed. -/
theorem depthOf_run_ends (schema : Schema) (depths : Depths) {visiting : List String}
    (distinct : visiting.Nodup) (name : String) :
    (∃ final ∈ StateTransition.eval (Search.step schema) (.start visiting depths name),
      final.outcome? = some (depthOf schema visiting depths name)) ∧
    (∀ search, Reaches (Search.step schema) (.start visiting depths name) search →
      search.visiting.Nodup ∧ ∃ added, search.visiting = visiting ++ added ∧
        added.length ≤ schema.index.names.dedup.length) ∧
    ∀ final ∈ StateTransition.eval (Search.step schema) (.start visiting depths name),
      ∀ depth after, final.outcome? = some (.ok (depth, after)) →
        final.visiting = visiting ∧ final.depths = after ∧
          ∀ other known, depths.find? other = some known → after.find? other = some known := by
  have consistent {search : Search}
      (run : Reaches (Search.step schema) (.start visiting depths name) search) :
      search.Consistent schema visiting depths :=
    (Search.Consistent.start distinct name).reaches run
  refine ⟨?_, ?_, ?_⟩
  · obtain ⟨final, run, outcome⟩ := Search.exists_outcome?_of_reaches schema visiting depths name
    have ended : Search.step schema final = none := Search.step_eq_none_of_outcome? outcome
    exact ⟨final, StateTransition.mem_eval.2 ⟨run, ended⟩, outcome⟩
  · intro search run
    have here := consistent run
    exact ⟨here.distinct, search.opened, here.chain, here.length_opened_le⟩
  · intro final ended depth after outcome
    have here := consistent (StateTransition.mem_eval.1 ended).1
    obtain ⟨none, rfl⟩ := Search.opened_eq_nil_of_outcome? outcome
    refine ⟨?_, rfl, here.grown⟩
    rw [here.chain, none, List.append_nil]

/-- A structure with the given types of members. -/
def structHolding (types : List String) : TypeDef :=
  .struct {
    name := "Draft"
    members := types.map fun type => { name := type, type := .reference type } }

/-- Two structures that contain each other, found under names that are not their own, beside a
name whose place is gone. -/
def driftedSchema : Schema :=
  { types := [structHolding ["Inner", "Lost", "Ring"], structHolding [], structHolding ["Outer"]]
    index := ⟨[("Outer", 0), ("Inner", 1), ("Ring", 2), ("Lost", 7), ("Inner", 0)]⟩ }

/-- With a depth for one of the two the search goes well, and without it the cycle is met. -/
theorem driftedSchema_run_ends :
    ["Elsewhere"].Nodup ∧
    (∃ final ∈ StateTransition.eval (Search.step driftedSchema)
        (.start ["Elsewhere"] ⟨[("Ring", 4)]⟩ "Outer"),
      final.outcome? = some (.ok (5, ⟨[("Outer", 5), ("Inner", 0), ("Ring", 4)]⟩)) ∧
        final.visiting = ["Elsewhere"] ∧ final.depths.find? "Ring" = some 4) ∧
    ∃ final ∈ StateTransition.eval (Search.step driftedSchema)
        (.start ["Elsewhere"] .empty "Outer"),
      final.outcome? = some (.error (.circular ["Elsewhere", "Outer", "Ring", "Outer"])) := by
  have distinct : ["Elsewhere"].Nodup := List.nodup_singleton _
  have found : depthOf driftedSchema ["Elsewhere"] ⟨[("Ring", 4)]⟩ "Outer" =
      .ok (5, ⟨[("Outer", 5), ("Inner", 0), ("Ring", 4)]⟩) := by decide +kernel
  have failed : depthOf driftedSchema ["Elsewhere"] .empty "Outer" =
      .error (.circular ["Elsewhere", "Outer", "Ring", "Outer"]) := by decide +kernel
  obtain ⟨⟨final, ended, outcome⟩, _, restored⟩ :=
    depthOf_run_ends driftedSchema ⟨[("Ring", 4)]⟩ distinct "Outer"
  rw [found] at outcome
  obtain ⟨same, left, kept⟩ := restored final ended _ _ outcome
  have ring : final.depths.find? "Ring" = some 4 := by
    rw [left]
    exact kept "Ring" 4 (by decide)
  refine ⟨distinct, ⟨final, ended, outcome, same, ring⟩, ?_⟩
  rw [← failed]
  exact (depthOf_run_ends driftedSchema .empty distinct "Outer").1

end ApiHeader.Schema
