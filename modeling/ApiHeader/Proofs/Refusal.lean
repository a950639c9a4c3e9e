/-
# What a schema is refused for

Validation makes one check after the other and stops at the first that fails. The checks are
listed here in the order in which they are made, each with the errors that it refuses a schema
for, and these are stated of the lists of the schema alone: a name is reported as repeated if
it is the first of its list that was there before. A schema is accepted exactly if no check
refuses it, and otherwise the error is the one of the first check that does.
-/

import ApiHeader.Proofs.Validation

namespace ApiHeader.Schema

variable {schema : Schema}

/-! ## Repeated names -/

/-- The names before this one differ, and it is among them. -/
def FirstRepeat (names : List String) (name : String) : Prop :=
  ∃ before after, names = before ++ name :: after ∧ before.Nodup ∧ name ∈ before

theorem firstRepeatFrom?_eq_some_iff {seen names : List String} {name : String} :
    firstRepeatFrom? seen names = some name ↔
      ∃ before after, names = before ++ name :: after ∧ before.Nodup ∧
        (∀ other ∈ before, other ∉ seen) ∧ (name ∈ before ∨ name ∈ seen) := by
  induction names generalizing seen with
  | nil => simp [firstRepeatFrom?]
  | cons first rest ih =>
      by_cases known : first ∈ seen
      · rw [firstRepeatFrom?, if_pos known]
        constructor
        · rintro ⟨⟩
          exact ⟨[], rest, rfl, .nil, List.forall_mem_nil _, .inr known⟩
        · rintro ⟨before, after, shape, _, fresh, _⟩
          cases before with
          | nil =>
              cases shape
              rfl
          | cons own others =>
              cases shape
              exact absurd known (fresh first List.mem_cons_self)
      · rw [firstRepeatFrom?, if_neg known, ih]
        constructor
        · rintro ⟨before, after, rfl, distinct, fresh, again⟩
          refine ⟨first :: before, after, rfl, ?_, ?_, ?_⟩
          · exact List.nodup_cons.2 ⟨fun inside => fresh first inside List.mem_cons_self, distinct⟩
          · refine List.forall_mem_cons.2 ⟨known, fun other inside => ?_⟩
            exact List.not_mem_of_not_mem_cons (fresh other inside)
          · rw [List.mem_cons] at again ⊢
            tauto
        · rintro ⟨before, after, shape, distinct, fresh, again⟩
          cases before with
          | nil =>
              cases shape
              exact absurd again (by simp [known])
          | cons own others =>
              cases shape
              obtain ⟨unique, distinct⟩ := List.nodup_cons.1 distinct
              refine ⟨others, after, rfl, distinct, fun other inside => ?_, ?_⟩
              · refine List.not_mem_cons_of_ne_of_not_mem ?_
                  (fresh other (List.mem_cons_of_mem _ inside))
                rintro rfl
                exact unique inside
              · rw [List.mem_cons] at again ⊢
                tauto

theorem firstRepeat?_eq_some_iff {names : List String} {name : String} :
    firstRepeat? names = some name ↔ FirstRepeat names name := by
  simp [firstRepeat?, firstRepeatFrom?_eq_some_iff, FirstRepeat]

theorem checkCategory_eq_error_iff {category : Category} {cause : SchemaError} :
    schema.checkCategory category = .error cause ↔
      ∃ name, FirstRepeat (schema.namesOf category) name ∧ cause = .duplicate category name := by
  simp only [checkCategory, ← firstRepeat?_eq_some_iff]
  cases firstRepeat? (schema.namesOf category) <;> simp [eq_comm]

/-- The error for a definition that names two of its parts alike. -/
def TypeDef.repeatedPart : TypeDef → String → SchemaError
  | .struct definition => .repeatedMember definition.name
  | definition => .repeatedEntry definition.name

theorem checkDefinition_eq_error_iff {definition : TypeDef} {cause : SchemaError} :
    checkDefinition definition = .error cause ↔
      ∃ name, FirstRepeat definition.partNames name ∧ cause = definition.repeatedPart name := by
  simp only [← firstRepeat?_eq_some_iff]
  cases definition with
  | value definition => exact iff_of_false nofun nofun
  | enumeration definition =>
      simp only [checkDefinition, TypeDef.partNames]
      cases firstRepeat? (definition.entries.map Entry.name) <;>
        simp [TypeDef.repeatedPart, TypeDef.name, eq_comm]
  | bitmask definition =>
      simp only [checkDefinition, TypeDef.partNames]
      cases firstRepeat? (definition.entries.map Entry.name) <;>
        simp [TypeDef.repeatedPart, TypeDef.name, eq_comm]
  | struct definition =>
      simp only [checkDefinition, TypeDef.partNames]
      cases firstRepeat? (definition.members.map Member.name) <;>
        simp [TypeDef.repeatedPart, eq_comm]

/-! ## Checks in order -/

/-- One of the checks that validation makes. -/
inductive Check
  /-- The names of a category differ. -/
  | names (category : Category)
  /-- The entries or members of a definition have names that differ. -/
  | parts (definition : TypeDef)
  /-- No structure contains itself. -/
  | nesting

namespace Check

/-- The outcome of a check. -/
def run (schema : Schema) : Check → Except SchemaError Unit
  | names category => schema.checkCategory category
  | parts definition => checkDefinition definition
  | nesting => schema.structDepths.map fun _ => ()

/-- A check refuses a schema for the first name that repeats another one, or for structures
without depths. -/
def Refuses (schema : Schema) : Check → SchemaError → Prop
  | names category, cause =>
    ∃ name, FirstRepeat (schema.namesOf category) name ∧ cause = .duplicate category name
  | parts definition, cause =>
    ∃ name, FirstRepeat definition.partNames name ∧ cause = definition.repeatedPart name
  | nesting, cause => schema.structDepths = .error cause

theorem run_eq_error_iff {check : Check} {cause : SchemaError} :
    check.run schema = .error cause ↔ check.Refuses schema cause := by
  cases check with
  | names category => exact checkCategory_eq_error_iff
  | parts definition => exact checkDefinition_eq_error_iff
  | nesting =>
      rw [run, Refuses]
      cases schema.structDepths <;> simp [Except.map]

theorem run_eq_ok_iff {check : Check} :
    check.run schema = .ok () ↔ ∀ cause, ¬ check.Refuses schema cause := by
  simp only [← run_eq_error_iff]
  cases check.run schema <;> simp

end Check

/-- The checks in the order in which they are made. -/
def checks (schema : Schema) : List Check :=
  [.names .constant, .names .value, .names .enumeration, .names .bitmask, .names .struct] ++
    schema.types.map .parts ++
    [.names .freeFunction, .names .functionPointer, .names .object, .nesting]

/-- Validation makes all checks in order. -/
theorem validate_eq_forM (schema : Schema) :
    schema.validate = forM schema.checks (Check.run schema) := by
  rw [checks, List.forM_append, List.forM_append, List.forM_map, bind_assoc]
  have last : forM [Check.names .freeFunction, .names .functionPointer, .names .object, .nesting]
      (Check.run schema) =
        (do
          forM [Category.freeFunction, .functionPointer, .object] schema.checkCategory
          let _ ← schema.structDepths
          return ()) := by
    simp only [List.forM_cons, List.forM_nil, bind_assoc, Check.run]
    cases schema.structDepths <;> rfl
  rw [last]
  rfl

/-- Checks made in order fail with the error of the first one that does. -/
theorem forM_eq_error_iff {ε α : Type} {check : α → Except ε Unit} {elements : List α} {cause : ε} :
    forM elements check = .error cause ↔
      ∃ before element after, elements = before ++ element :: after ∧
        (∀ passed ∈ before, check passed = .ok ()) ∧ check element = .error cause := by
  induction elements with
  | nil =>
      refine iff_of_false nofun ?_
      rintro ⟨before, element, after, shape, _⟩
      cases before <;> cases shape
  | cons first rest ih =>
      rw [List.forM_cons]
      cases own : check first with
      | error other =>
          constructor
          · rintro ⟨⟩
            exact ⟨[], first, rest, rfl, List.forall_mem_nil _, own⟩
          · rintro ⟨before, element, after, shape, passed, failed⟩
            cases before with
            | nil =>
                cases shape
                exact own.symm.trans failed
            | cons _ _ =>
                cases shape
                cases own.symm.trans (passed first List.mem_cons_self)
      | ok passes =>
          change forM rest check = _ ↔ _
          rw [ih]
          constructor
          · rintro ⟨before, element, after, rfl, passed, failed⟩
            exact ⟨first :: before, element, after, rfl,
              List.forall_mem_cons.2 ⟨own, passed⟩, failed⟩
          · rintro ⟨before, element, after, shape, passed, failed⟩
            cases before with
            | nil =>
                cases shape
                cases own.symm.trans failed
            | cons _ before =>
                cases shape
                exact ⟨before, element, after, rfl, (List.forall_mem_cons.1 passed).2, failed⟩

/-- A schema is accepted if nothing is declared twice where names are compared and structures
have depths. Otherwise it is refused for what the first check that fails finds. -/
theorem validate_verdict (schema : Schema) :
    (schema.validate = .ok () ↔
      (schema.constants.map Constant.name).Nodup ∧
      (schema.valueTypes.map ValueType.name).Nodup ∧
      (schema.enumerations.map Enumeration.name).Nodup ∧
      (schema.bitmasks.map Enumeration.name).Nodup ∧
      (schema.structs.map Struct.name).Nodup ∧
      (schema.freeFunctions.map Function.name).Nodup ∧
      (schema.functionPointers.map Function.name).Nodup ∧
      (schema.objects.map Object.name).Nodup ∧
      (∀ definition ∈ schema.types, definition.partNames.Nodup) ∧
      ∃ depths, schema.structDepths = .ok depths) ∧
    ∀ cause, schema.validate = .error cause ↔
      ∃ before check after, schema.checks = before ++ check :: after ∧
        (∀ passed ∈ before, ∀ other, ¬ passed.Refuses schema other) ∧
        check.Refuses schema cause := by
  constructor
  · rw [validate_eq_ok_iff]
    constructor
    · rintro ⟨names, parts, depths⟩
      exact ⟨names .constant, names .value, names .enumeration, names .bitmask, names .struct,
        names .freeFunction, names .functionPointer, names .object, parts, depths⟩
    · rintro ⟨constants, values, enumerations, bitmasks, structs, functions, pointers, objects,
        parts, depths⟩
      refine ⟨fun category => ?_, parts, depths⟩
      cases category <;> assumption
  · intro cause
    simp only [validate_eq_forM, forM_eq_error_iff, Check.run_eq_ok_iff, Check.run_eq_error_iff]

end ApiHeader.Schema
