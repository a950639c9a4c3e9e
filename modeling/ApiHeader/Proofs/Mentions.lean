/-
# Where types are written

Types are written in three sections of a header: behind the names of scalars, in function
pointers and in the fields of structures. Most of these mentions come from the description.
Others are the same in every header. The two structures that chains of extensions start with
lead to the next element and tell its type, structures that take part in a chain have a
field for it, and a callback is handed the data of the caller. Whatever type the sections
write is written at one of these sites, and every site is a place where one is written.

Comments may name types too; nothing is declared by them.
-/

import ApiHeader.Proofs.Introduction

namespace ApiHeader.Header

open Schema

variable {resolved : Resolved} {naming : Naming}

/-- The type that is declared, with the qualifiers before it. -/
def Declarator.mention (declarator : Declarator) : List String × String :=
  (declarator.qualifiers, declarator.type)

/-- The types that a declaration writes, each with the qualifiers before it. -/
def Declaration.written : Declaration → List (List String × String)
  | .synonym type _ => [([], type)]
  | .functionPointer _ signature _ =>
    ([], signature.returnType) :: signature.parameters.map Declarator.mention
  | .struct _ fields _ => fields.map Declarator.mention
  | _ => []

/-! ## Chains -/

/-- The chains of extensions. -/
inductive Chain
  | input
  | output

namespace Chain

/-- The name of the structure that a chain starts with. -/
def name : Chain → String
  | input => "ChainedStruct"
  | output => "ChainedStructOut"

/-- The structure that a chain starts with. -/
def header (naming : Naming) : Chain → Declaration
  | input => chainHeader naming naming.chainedStruct "const *"
  | output => chainHeader naming naming.chainedStructOut "*"

/-- A structure has a field for the chain. -/
def Joined (struct : Struct) : Chain → Prop
  | input => struct.extensible = .input ∨ struct.chained = .input
  | output => struct.chained = .output ∨ struct.extensible = .output

theorem introduces?_header (chain : Chain) (naming : Naming) :
    (chain.header naming).introduces? = some (naming.typeName chain.name) := by
  cases chain <;> rfl

theorem sectionKinds_header (chain : Chain) (naming : Naming) :
    (chain.header naming).sectionKinds = [.structures] := by
  cases chain <;> rfl

theorem mem_chainHeaders_iff {declaration : Declaration} :
    declaration ∈ chainHeaders naming ↔ ∃ chain : Chain, chain.header naming = declaration := by
  rw [chainHeaders, List.mem_cons, List.mem_singleton]
  constructor
  · rintro (rfl | rfl)
    · exact ⟨input, rfl⟩
    · exact ⟨output, rfl⟩
  · rintro ⟨_ | _, rfl⟩
    · exact .inl rfl
    · exact .inr rfl

/-- The fields for chains are those for the chains that a structure takes part in. -/
theorem mem_chainFields_iff {struct : Struct} {mention : List String × String} :
    mention ∈ (chainFields naming struct).map Declarator.mention ↔
      ∃ chain : Chain, chain.Joined struct ∧ ([], naming.typeName chain.name) = mention := by
  have optional (condition : Prop) [Decidable condition] (field : Declarator) :
      mention ∈ (if condition then [field] else []).map Declarator.mention ↔
        condition ∧ field.mention = mention := by
    split <;> simp [*, eq_comm]
  rw [chainFields, List.map_append, List.map_append, List.mem_append, List.mem_append, optional,
    optional, optional]
  constructor
  · rintro ((⟨own, rfl⟩ | ⟨own, rfl⟩) | ⟨own, rfl⟩)
    · exact ⟨input, .inl own, rfl⟩
    · exact ⟨input, .inr own, rfl⟩
    · exact ⟨output, own, rfl⟩
  · rintro ⟨chain, joins, rfl⟩
    cases chain with
    | input => exact .inl (joins.imp (⟨·, rfl⟩) (⟨·, rfl⟩))
    | output => exact .inr ⟨joins, rfl⟩

end Chain

/-! ## What declarations write -/

section Written

variable {mention : List String × String}

theorem mem_written_functionPointer {function : Function} :
    mention ∈ (functionPointerDeclaration resolved naming function).written ↔
      mention = ([], cType resolved naming function.returnType) ∨
      (∃ argument ∈ function.arguments,
        (argumentParameter resolved naming .functionPointer argument).mention = mention) ∨
      function.isAsync ∧
        (mention = ([], cType resolved naming function.callbackType) ∨ mention = ([], "void")) := by
  have answers : mention ∈ (callbackParameters resolved naming function).map Declarator.mention ↔
      function.isAsync ∧
        (mention = ([], cType resolved naming function.callbackType) ∨ mention = ([], "void")) := by
    rw [callbackParameters]
    split
    · next async => simp [async, Declarator.mention]
    · next async => simp [async]
  change mention ∈ ([], cType resolved naming function.returnType) :: List.map _ (_ ++ _ ++ _) ↔ _
  rw [List.mem_cons, List.map_append, List.map_append, List.mem_append, answers, List.map_map]
  simp [ownerParameters]

theorem mem_written_header {chain : Chain} :
    mention ∈ (chain.header naming).written ↔
      mention = (["struct"], naming.typeName chain.name) ∨
        mention = ([], naming.typeName "SType") := by
  have shape : (chain.header naming).written =
      [(["struct"], naming.typeName chain.name), ([], naming.typeName "SType")] := by
    cases chain <;> rfl
  rw [shape, List.mem_cons, List.mem_singleton]

theorem mem_written_struct {struct : Struct} :
    mention ∈ (structDeclaration resolved naming struct).written ↔
      (∃ chain : Chain, chain.Joined struct ∧ ([], naming.typeName chain.name) = mention) ∨
        ∃ part ∈ struct.members, (memberField resolved naming part).mention = mention := by
  change mention ∈ List.map _ (_ ++ _) ↔ _
  rw [List.map_append, List.mem_append, Chain.mem_chainFields_iff, List.map_map, List.mem_map]
  rfl

end Written

/-! ## Sites -/

/-- A place of the value type, function pointer and structure sections at which a type is
written. -/
inductive Site (resolved : Resolved)
  | underlying (type : ValueType) (declared : type ∈ resolved.schema.valueTypes)
  | returned (function : Function) (declared : function ∈ resolved.schema.functionPointers)
  | parameter (function : Function) (declared : function ∈ resolved.schema.functionPointers)
      (argument : Argument) (taken : argument ∈ function.arguments)
  | callback (function : Function) (declared : function ∈ resolved.schema.functionPointers)
      (async : function.isAsync)
  /-- The data that a callback is handed. -/
  | userdata (function : Function) (declared : function ∈ resolved.schema.functionPointers)
      (async : function.isAsync)
  /-- The field that leads from one element of a chain to the next. -/
  | link (chain : Chain)
  /-- The field that tells what an element of a chain is. -/
  | chainType (chain : Chain)
  /-- The field for a chain in a structure that takes part in it. -/
  | chained (struct : Struct) (declared : struct ∈ resolved.structsInOrder) (chain : Chain)
      (joins : chain.Joined struct)
  | member (struct : Struct) (declared : struct ∈ resolved.structsInOrder) (part : Member)
      (held : part ∈ struct.members)

namespace Site

/-- The type that is mentioned. -/
def type : Site resolved → TypeRef
  | underlying type _ => type.underlying
  | returned function _ => function.returnType
  | parameter _ _ argument _ => argument.type
  | callback function _ _ => function.callbackType
  | userdata _ _ _ => .void
  | link chain => .reference chain.name
  | chainType _ => .reference "SType"
  | chained _ _ chain _ => .reference chain.name
  | member _ _ part _ => part.type

/-- How it is written. In chains the name of a bitmask does not stand for its scalar. -/
def text (naming : Naming) : Site resolved → String
  | link chain => naming.typeName chain.name
  | chainType _ => naming.typeName "SType"
  | chained _ _ chain _ => naming.typeName chain.name
  | site => cType resolved naming site.type

/-- The declaration that mentions it. -/
def user (naming : Naming) : Site resolved → Declaration
  | underlying type _ => valueDeclaration resolved naming type
  | returned function _ => functionPointerDeclaration resolved naming function
  | parameter function _ _ _ => functionPointerDeclaration resolved naming function
  | callback function _ _ => functionPointerDeclaration resolved naming function
  | userdata function _ _ => functionPointerDeclaration resolved naming function
  | link chain => chain.header naming
  | chainType chain => chain.header naming
  | chained struct _ _ _ => structDeclaration resolved naming struct
  | member struct _ _ _ => structDeclaration resolved naming struct

/-- What is written before the type. -/
def qualifiers (naming : Naming) : Site resolved → List String
  | parameter _ _ argument _ => argumentQualifiers resolved naming .functionPointer argument
  | link _ => ["struct"]
  | member _ _ part _ => (memberField resolved naming part).qualifiers
  | _ => []

theorem mem_written (site : Site resolved) (naming : Naming) :
    (site.qualifiers naming, site.text naming) ∈ (site.user naming).written := by
  cases site with
  | underlying type declared => exact List.mem_singleton_self _
  | returned function declared => exact mem_written_functionPointer.2 (.inl rfl)
  | parameter function declared argument taken =>
      exact mem_written_functionPointer.2 (.inr (.inl ⟨argument, taken, rfl⟩))
  | callback function declared async =>
      exact mem_written_functionPointer.2 (.inr (.inr ⟨async, .inl rfl⟩))
  | userdata function declared async =>
      exact mem_written_functionPointer.2 (.inr (.inr ⟨async, .inr rfl⟩))
  | link chain => exact mem_written_header.2 (.inl rfl)
  | chainType chain => exact mem_written_header.2 (.inr rfl)
  | chained struct declared chain joins =>
      exact mem_written_struct.2 (.inl ⟨chain, joins, rfl⟩)
  | member struct declared part held =>
      exact mem_written_struct.2 (.inr ⟨part, held, rfl⟩)

/-- Whatever type is written in the three sections is written at a site. -/
theorem exists_of_mem_written {kind : SectionKind}
    (mentioning : kind ∈ [SectionKind.valueTypes, .functionPointers, .structures])
    {guard : String} {declaration : Declaration}
    (inside : .declaration declaration ∈ kind.items resolved naming guard)
    {mention : List String × String} (written : mention ∈ declaration.written) :
    ∃ site : Site resolved, site.user naming = declaration ∧
      (site.qualifiers naming, site.text naming) = mention := by
  simp only [List.mem_cons, List.not_mem_nil, or_false] at mentioning
  rcases mentioning with rfl | rfl | rfl
  · obtain ⟨type, listed, rfl⟩ := List.mem_map.1 (declaration_mem_paragraph.1 inside)
    exact ⟨.underlying type (List.mem_mergeSort.1 listed), rfl, (List.mem_singleton.1 written).symm⟩
  · obtain ⟨function, listed, rfl⟩ := List.mem_map.1 (declaration_mem_paragraph.1 inside)
    have declared := List.mem_mergeSort.1 listed
    rcases mem_written_functionPointer.1 written with
      rfl | ⟨argument, taken, rfl⟩ | ⟨async, rfl | rfl⟩
    · exact ⟨.returned function declared, rfl, rfl⟩
    · exact ⟨.parameter function declared argument taken, rfl, rfl⟩
    · exact ⟨.callback function declared async, rfl, rfl⟩
    · exact ⟨.userdata function declared async, rfl, rfl⟩
  · rcases declaration_mem_structSection.1 inside with led | ⟨struct, declared, rfl⟩
    · obtain ⟨chain, rfl⟩ := Chain.mem_chainHeaders_iff.1 led
      rcases mem_written_header.1 written with rfl | rfl
      · exact ⟨.link chain, rfl, rfl⟩
      · exact ⟨.chainType chain, rfl, rfl⟩
    · rcases mem_written_struct.1 written with ⟨chain, joins, rfl⟩ | ⟨part, held, rfl⟩
      · exact ⟨.chained struct declared chain joins, rfl, rfl⟩
      · exact ⟨.member struct declared part held, rfl, rfl⟩

/-- The types in a declaration of the three sections are those that its sites write. -/
theorem mem_written_iff {kind : SectionKind}
    (mentioning : kind ∈ [SectionKind.valueTypes, .functionPointers, .structures])
    {guard : String} {declaration : Declaration}
    (inside : .declaration declaration ∈ kind.items resolved naming guard)
    (mention : List String × String) :
    mention ∈ declaration.written ↔
      ∃ site : Site resolved, site.user naming = declaration ∧
        (site.qualifiers naming, site.text naming) = mention := by
  constructor
  · exact exists_of_mem_written mentioning inside
  · rintro ⟨site, rfl, rfl⟩
    exact site.mem_written naming

theorem user_mem_pieces (site : Site resolved) (options : Options) :
    .declaration (site.user (namingOf resolved)) ∈ pieces options resolved := by
  have led (chain : Chain) :
      .declaration (chain.header (namingOf resolved)) ∈ pieces options resolved := by
    apply mem_pieces (sectionOf_mem_layout .struct options)
    exact declaration_mem_structSection.2 (.inl (Chain.mem_chainHeaders_iff.2 ⟨chain, rfl⟩))
  cases site with
  | underlying type declared => exact (Typedef.value declared rfl).mem_pieces options
  | returned function declared => exact (Typedef.functionPointer declared rfl).mem_pieces options
  | parameter function declared argument taken =>
      exact (Typedef.functionPointer declared rfl).mem_pieces options
  | callback function declared async =>
      exact (Typedef.functionPointer declared rfl).mem_pieces options
  | userdata function declared async =>
      exact (Typedef.functionPointer declared rfl).mem_pieces options
  | link chain => exact led chain
  | chainType chain => exact led chain
  | chained struct declared chain joins => exact (Typedef.struct declared rfl).mem_pieces options
  | member struct declared part held => exact (Typedef.struct declared rfl).mem_pieces options

end Site

end ApiHeader.Header
