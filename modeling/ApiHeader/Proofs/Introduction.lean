/-
# What introduces a name

A mention of an entity is written as an identifier, and which identifier depends on
the kind of the entity. The kind is looked up in a table of its own: function pointers
hide objects, objects hide types, and within each list the last entry hides the others.
The sections of a header know nothing of this table. Still, an entity that the table
finds is one that its section writes out, for a type that is found there is the last of
its name, and the last definition of a name is what structures are looked up at. So every
identifier that stands for a known name is introduced, names that are declared twice or by
several kinds included.
-/

import ApiHeader.Proofs.NameKinds
import ApiHeader.Proofs.StructBodies

namespace ApiHeader

open Schema Header

variable {schema : Schema} {resolved : Resolved} {options : Options} {naming : Naming}

/-! ## Typedefs -/

namespace Header

/-- The identifier that a declaration makes the name of a type. -/
def Declaration.introduces? : Declaration → Option String
  | .synonym _ name => some name
  | .markedSynonym _ name _ => some name
  | .handle _ name _ => some name
  | .enumeration name _ _ _ => some name
  | .functionPointer name _ _ => some name
  | .struct name _ _ => some name
  | .constant .. => none
  | .forward _ => none
  | .prototype .. => none

/-- The section that introduces the entities of a kind. -/
def sectionOf : EntityKind → SectionKind
  | .value => .valueTypes
  | .enumeration => .enumerations
  | .bitmask => .bitmasks
  | .struct => .structures
  | .object => .handles
  | .functionPointer => .functionPointers

theorem sectionOf_mem_layout (kind : EntityKind) (options : Options) :
    sectionOf kind ∈ options.layout := by
  cases kind <;> simp [sectionOf, Options.layout]

/-- A declaration that introduces an entity of a name and a kind. That of a bitmask is the
scalar for its values, and only structures that are looked up have one. -/
inductive Typedef (resolved : Resolved) (naming : Naming) (name : String) :
    EntityKind → Declaration → Prop
  | value {type : ValueType} (declared : type ∈ resolved.schema.valueTypes)
      (named : type.name = name) :
      Typedef resolved naming name .value (valueDeclaration resolved naming type)
  | enumeration {enumeration : Enumeration}
      (declared : enumeration ∈ resolved.schema.enumerations) (named : enumeration.name = name) :
      Typedef resolved naming name .enumeration (enumerationDeclaration naming enumeration)
  | bitmask {bitmask : Enumeration} (declared : bitmask ∈ resolved.schema.bitmasks)
      (named : bitmask.name = name) :
      Typedef resolved naming name .bitmask (flagsDeclaration resolved naming bitmask)
  | struct {struct : Struct} (declared : struct ∈ resolved.structsInOrder)
      (named : struct.name = name) :
      Typedef resolved naming name .struct (structDeclaration resolved naming struct)
  | object {object : Object} (declared : object ∈ resolved.schema.objects)
      (named : object.name = name) :
      Typedef resolved naming name .object (handleDeclaration naming object)
  | functionPointer {function : Function} (declared : function ∈ resolved.schema.functionPointers)
      (named : function.name = name) :
      Typedef resolved naming name .functionPointer
        (functionPointerDeclaration resolved naming function)

namespace Typedef

variable {name : String} {kind : EntityKind} {declaration : Declaration}

/-- A typedef stands in the section of its kind. -/
theorem mem_items (typedef : Typedef resolved naming name kind declaration) (guard : String) :
    .declaration declaration ∈ (sectionOf kind).items resolved naming guard := by
  cases typedef with
  | @value type declared named =>
      refine declaration_mem_paragraph.2 (List.mem_map.2 ⟨type, ?_, rfl⟩)
      exact List.mem_mergeSort.2 declared
  | @enumeration enumeration declared named =>
      refine List.mem_flatMap.2 ⟨enumeration, declared, ?_⟩
      exact declaration_mem_paragraph.2 (List.mem_singleton_self _)
  | @bitmask bitmask declared named =>
      refine List.mem_flatMap.2 ⟨bitmask, declared, ?_⟩
      exact declaration_mem_paragraph.2 (List.mem_cons_of_mem _ (List.mem_singleton_self _))
  | @struct struct declared named =>
      exact declaration_mem_structSection.2 (.inr ⟨struct, declared, rfl⟩)
  | @object object declared named =>
      refine declaration_mem_paragraph.2 (List.mem_map.2 ⟨object, ?_, rfl⟩)
      exact List.mem_mergeSort.2 declared
  | @functionPointer function declared named =>
      refine declaration_mem_paragraph.2 (List.mem_map.2 ⟨function, ?_, rfl⟩)
      exact List.mem_mergeSort.2 declared

/-- A typedef introduces the identifier that stands for its entity. -/
theorem introduces?_eq (typedef : Typedef resolved naming name kind declaration)
    (known : resolved.kind? name = some kind) :
    declaration.introduces? = some (cType resolved naming (.reference name)) := by
  have written : cType resolved naming (.reference name) =
      if kind = .bitmask then naming.flagsName name else naming.typeName name := by
    simp [cType, Resolved.isBitmask, Resolved.typeKind?, TypeRef.reference?, known]
  rw [written]
  cases typedef <;> next named => rw [← named]; rfl

theorem mem_pieces (typedef : Typedef resolved (namingOf resolved) name kind declaration)
    (options : Options) : .declaration declaration ∈ pieces options resolved :=
  Header.mem_pieces (sectionOf_mem_layout kind options) (typedef.mem_items _)

end Typedef

end Header

/-! ## Known names -/

/-- A known name is that of a function pointer or an object, or it is the name of a type
and its kind is that of the last definition. -/
theorem exists_of_kind? (ordered : Resolved.ofSchema schema = .ok resolved) {name : String}
    {kind : EntityKind} (known : resolved.kind? name = some kind) :
    (kind = .functionPointer ∧ ∃ function ∈ schema.functionPointers, function.name = name) ∨
    (kind = .object ∧ ∃ object ∈ schema.objects, object.name = name) ∨
    ∃ definition, lastNamed? schema.types name = some definition ∧ definition.kind = kind := by
  rw [Resolved.kind?_eq_ite ordered] at known
  split at known
  · next inside =>
    obtain ⟨function, there, named⟩ := List.mem_map.1 inside
    exact .inl ⟨(Option.some.inj known).symm, function, there, named⟩
  · split at known
    · next inside =>
      obtain ⟨object, there, named⟩ := List.mem_map.1 inside
      exact .inr (.inl ⟨(Option.some.inj known).symm, object, there, named⟩)
    · obtain ⟨definition, last, rfl⟩ := Option.map_eq_some_iff.1 known
      exact .inr (.inr ⟨definition, last, rfl⟩)

/-- Every known name has a typedef. -/
theorem exists_typedef (upToDate : schema.UpToDate)
    (ordered : Resolved.ofSchema schema = .ok resolved) {name : String} {kind : EntityKind}
    (known : resolved.kind? name = some kind) (naming : Naming) :
    ∃ declaration, Typedef resolved naming name kind declaration := by
  have sameSchema : resolved.schema = schema := by
    obtain ⟨depths, _, rfl⟩ := Resolved.ofSchema_eq_ok ordered
    rfl
  rcases exists_of_kind? ordered known with
    ⟨rfl, function, inside, named⟩ | ⟨rfl, object, inside, named⟩ | ⟨definition, last, rfl⟩
  · exact ⟨_, .functionPointer (sameSchema ▸ inside) named⟩
  · exact ⟨_, .object (sameSchema ▸ inside) named⟩
  · obtain ⟨inside, named⟩ := lastNamed?_eq_some last
    cases definition with
    | value type =>
        exact ⟨_, .value (sameSchema ▸ List.mem_filterMap.2 ⟨_, inside, rfl⟩) named⟩
    | enumeration type =>
        exact ⟨_, .enumeration (sameSchema ▸ List.mem_filterMap.2 ⟨_, inside, rfl⟩) named⟩
    | bitmask type =>
        exact ⟨_, .bitmask (sameSchema ▸ List.mem_filterMap.2 ⟨_, inside, rfl⟩) named⟩
    | struct struct =>
        -- the last definition of the name is also what the structure is looked up at
        have found : schema.struct? name = some struct := by
          rw [struct?, upToDate.type?_eq, last]
          rfl
        refine ⟨_, .struct ((mem_structsInOrder_iff upToDate ordered).2 ?_) named⟩
        rw [← found]
        exact congrArg schema.struct? named

end ApiHeader
