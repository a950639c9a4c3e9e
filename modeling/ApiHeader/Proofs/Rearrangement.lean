/-
# The order of a description does not show

Two schemas that declare the same entities in another order have the same header,
as long as every name is declared once. Only enumerations and bitmasks are written
in the order of the description, so among themselves they have to keep it.

Everything a header is made of is either a lookup by name or a sorted list. A
lookup in a list whose names differ does not see the order of the list, and neither
does a sort. The depths of structures are heights in the graph of embeddings, and
that graph is given by lookups.
-/

import ApiHeader.Proofs.DeclarationOrder

namespace ApiHeader

open Schema Header

/-! ## Lookups -/

namespace Schema

variable {schema other : Schema}

section Lookup

variable {α : Type} {key : α → String} {first second : List α}

/-- Where keys differ, a search by key finds every element. -/
theorem find?_eq_some_iff_of_distinct (distinct : (first.map key).Nodup) {name : String} {a : α} :
    first.find? (fun b => key b == name) = some a ↔ a ∈ first ∧ key a = name := by
  constructor
  · intro found
    exact ⟨List.mem_of_find?_eq_some found, by simpa using List.find?_some found⟩
  · rintro ⟨inside, rfl⟩
    cases found : first.find? (fun b => key b == key a) with
    | none =>
        have absent := List.find?_eq_none.1 found a inside
        simp at absent
    | some b =>
        have same : key b = key a := by simpa using List.find?_some found
        rw [List.inj_on_of_nodup_map distinct (List.mem_of_find?_eq_some found) inside same]

/-- Where keys differ, a search by key does not see the order. -/
theorem find?_eq_of_perm (perm : first.Perm second) (distinct : (first.map key).Nodup)
    (name : String) :
    first.find? (fun a => key a == name) = second.find? fun a => key a == name := by
  have distinct' : (second.map key).Nodup := (perm.map key).nodup_iff.1 distinct
  apply Option.ext
  intro a
  rw [find?_eq_some_iff_of_distinct distinct, find?_eq_some_iff_of_distinct distinct',
    perm.mem_iff]

end Lookup

/-- A table filled from a list answers with the last entry of a name. -/
theorem find?_foldl_insert {α : Type} (entries : List (String × α)) (table : NameTable α)
    (name : String) :
    (entries.foldl (fun table entry => table.insert entry.1 entry.2) table).find? name =
      ((entries.reverse.find? fun entry => entry.1 == name).map Prod.snd).or
        (table.find? name) := by
  induction entries using List.reverseRecOn with
  | nil => rfl
  | append_singleton entries entry ih =>
      rw [List.foldl_append, List.foldl_cons, List.foldl_nil, NameTable.find?_insert, ih,
        List.reverse_append, List.reverse_singleton, List.singleton_append, List.find?_cons]
      by_cases same : entry.1 = name
      · simp [same]
      · have differs : (entry.1 == name) = false := by simpa using same
        rw [if_neg (Ne.symm same), differs]

/-- What a name stands for: the last function pointer of that name, else the last
object, else the last type. -/
theorem find?_entityKinds (schema : Schema) (name : String) :
    schema.entityKinds.find? name =
      (((schema.functionPointers.map fun function =>
          (function.name, EntityKind.functionPointer)).reverse.find? fun e => e.1 == name).or
        (((schema.objects.map fun object =>
            (object.name, EntityKind.object)).reverse.find? fun e => e.1 == name).or
          ((schema.types.map fun definition =>
            (definition.name, definition.kind)).reverse.find? fun e => e.1 == name))).map
        Prod.snd := by
  rw [entityKinds, find?_foldl_insert]
  simp only [List.reverse_append, List.find?_append, NameTable.find?_empty, Option.or_none]

/-! ## Rearranged schemas -/

/-- One schema declares what another one does, in any order but that of
enumerations among themselves and bitmasks among themselves. The index is not
compared. -/
structure Rearranged (schema other : Schema) : Prop where
  license : schema.license = other.license
  namePrefix : schema.namePrefix = other.namePrefix
  constants : schema.constants.Perm other.constants
  types : schema.types.Perm other.types
  enumerations : schema.enumerations = other.enumerations
  bitmasks : schema.bitmasks = other.bitmasks
  freeFunctions : schema.freeFunctions.Perm other.freeFunctions
  functionPointers : schema.functionPointers.Perm other.functionPointers
  objects : schema.objects.Perm other.objects

/-- Every name is declared once: among all types, and within each other list. -/
structure DistinctNames (schema : Schema) : Prop where
  constants : (schema.constants.map Constant.name).Nodup
  types : (schema.types.map TypeDef.name).Nodup
  freeFunctions : (schema.freeFunctions.map Function.name).Nodup
  functionPointers : (schema.functionPointers.map Function.name).Nodup
  objects : (schema.objects.map Object.name).Nodup

theorem lastNamed?_eq_of_perm {first second : List TypeDef} (perm : first.Perm second)
    (distinct : (first.map TypeDef.name).Nodup) (name : String) :
    lastNamed? first name = lastNamed? second name := by
  apply find?_eq_of_perm
  · exact (List.reverse_perm first).trans (perm.trans (List.reverse_perm second).symm)
  · rw [List.map_reverse]
    exact List.nodup_reverse.2 distinct

/-- The same names are looked up at the same structures. -/
theorem struct?_eq_of_rearranged (upToDate : schema.UpToDate) (upToDate' : other.UpToDate)
    (distinct : schema.DistinctNames) (rearranged : Rearranged schema other) :
    schema.struct? = other.struct? := by
  funext name
  rw [struct?, struct?, upToDate.type?_eq, upToDate'.type?_eq,
    lastNamed?_eq_of_perm rearranged.types distinct.types]

/-- The same names stand for the same kinds of entities. -/
theorem find?_entityKinds_eq_of_rearranged (distinct : schema.DistinctNames)
    (rearranged : Rearranged schema other) (name : String) :
    schema.entityKinds.find? name = other.entityKinds.find? name := by
  have part {α : Type} {first second : List α} {key : α → String} {kind : α → EntityKind}
      (perm : first.Perm second) (distinct : (first.map key).Nodup) :
      ((first.map fun a => (key a, kind a)).reverse.find? fun entry => entry.1 == name) =
        (second.map fun a => (key a, kind a)).reverse.find? fun entry => entry.1 == name := by
    apply find?_eq_of_perm
    · apply (List.reverse_perm _).trans
      exact (perm.map _).trans (List.reverse_perm _).symm
    · rw [List.map_reverse, List.map_map]
      exact List.nodup_reverse.2 distinct
  rw [find?_entityKinds, find?_entityKinds,
    part rearranged.functionPointers distinct.functionPointers,
    part rearranged.objects distinct.objects, part rearranged.types distinct.types]

/-! ## The same graph -/

/-- Embeddings are found by lookups. -/
theorem embeds_congr (lookups : schema.struct? = other.struct?) : schema.Embeds = other.Embeds := by
  funext outer inner
  rw [Embeds, Embeds, lookups]

theorem ChainFrom.congr (lookups : schema.struct? = other.struct?) {name : String} {length : Nat}
    (h : schema.ChainFrom name length) : other.ChainFrom name length := by
  induction h with
  | single inside => exact .single (lookups ▸ inside)
  | step edge _ ih => exact .step (embeds_congr lookups ▸ edge) ih

theorem Bounded.congr (lookups : schema.struct? = other.struct?) {name : String}
    (h : schema.Bounded name) : other.Bounded name := by
  obtain ⟨height, bound⟩ := h
  exact ⟨height, fun length chain => bound length (chain.congr lookups.symm)⟩

theorem IsHeight.congr (lookups : schema.struct? = other.struct?) {name : String} {height : Nat}
    (h : schema.IsHeight name height) : other.IsHeight name height :=
  ⟨h.reached.congr lookups, fun length chain => h.bound length (chain.congr lookups.symm)⟩

theorem Rearranged.symm (h : Rearranged schema other) : Rearranged other schema where
  license := h.license.symm
  namePrefix := h.namePrefix.symm
  constants := h.constants.symm
  types := h.types.symm
  enumerations := h.enumerations.symm
  bitmasks := h.bitmasks.symm
  freeFunctions := h.freeFunctions.symm
  functionPointers := h.functionPointers.symm
  objects := h.objects.symm

theorem mem_structs_iff_of_rearranged (rearranged : Rearranged schema other) {struct : Struct} :
    struct ∈ schema.structs ↔ struct ∈ other.structs :=
  (rearranged.types.filterMap TypeDef.struct?).mem_iff

/-- A schema has depths if one with the same graph has, as long as the search starts
there at every structure at which it starts here. -/
theorem exists_structDepths_congr (lookups : schema.struct? = other.struct?)
    (covered : ∀ struct ∈ other.structs, (other.struct? struct.name).isSome →
      ∃ own ∈ schema.structs, own.name = struct.name)
    (h : ∃ depths, schema.structDepths = .ok depths) :
    ∃ depths, other.structDepths = .ok depths := by
  apply structDepths_eq_ok_iff.2
  intro struct inside
  by_cases known : (other.struct? struct.name).isSome
  · obtain ⟨own, there, named⟩ := covered struct inside known
    exact named ▸ (structDepths_eq_ok_iff.1 h own there).congr lookups
  · exact ⟨0, fun length chain => absurd chain.isSome known⟩

/-- A schema has depths if a rearranged one has. -/
theorem exists_structDepths_of_rearranged (lookups : schema.struct? = other.struct?)
    (rearranged : Rearranged schema other) (h : ∃ depths, schema.structDepths = .ok depths) :
    ∃ depths, other.structDepths = .ok depths := by
  refine exists_structDepths_congr lookups (fun struct inside _ => ?_) h
  exact ⟨struct, (mem_structs_iff_of_rearranged rearranged).2 inside, rfl⟩

/-- A name that has a depth in one schema has it in the other, since both are the
height in the same graph. -/
theorem depths_eq_of_rearranged (upToDate' : other.UpToDate)
    (lookups : schema.struct? = other.struct?) {depths depths' : Depths}
    (found : schema.structDepths = .ok depths) (found' : other.structDepths = .ok depths')
    {name : String} {depth : Nat} (recorded : depths.find? name = some depth) :
    depths'.find? name = some depth := by
  have height := (sound_of_structDepths found name depth recorded).congr lookups
  exact (find?_structDepths_iff upToDate' found').2 height

theorem structOrder_eq_of_rearranged (upToDate : schema.UpToDate) (upToDate' : other.UpToDate)
    (lookups : schema.struct? = other.struct?) (rearranged : Rearranged schema other)
    {depths depths' : Depths} (found : schema.structDepths = .ok depths)
    (found' : other.structDepths = .ok depths') :
    schema.structOrder depths = other.structOrder depths' := by
  have sameDepth (name : String) : depths.find? name = depths'.find? name := by
    apply Option.ext
    intro depth
    constructor
    · exact depths_eq_of_rearranged upToDate' lookups found found'
    · exact depths_eq_of_rearranged upToDate lookups.symm found' found
  have names : (schema.structs.map Struct.name).Perm (other.structs.map Struct.name) :=
    (rearranged.types.filterMap TypeDef.struct?).map Struct.name
  have baseline : ((schema.structs.map Struct.name).mergeSort fun a b => a ≤ b) =
      (other.structs.map Struct.name).mergeSort fun a b => a ≤ b := by
    apply mergeSort_rel_eq_of_perm (r := fun a b : String => a ≤ b)
      (fun _ _ _ ab bc => Std.le_trans ab bc) (fun _ _ => Std.le_total) names
    intro a _ b _ ab ba
    exact Std.le_antisymm ab ba
  rw [structOrder, structOrder, baseline]
  simp only [sameDepth]

end Schema

/-! ## The same header -/

namespace Header

/-- Two resolved schemas give every section of a header the same material: sorted
lists that are equal, and the same answers about names. -/
structure Alike (first second : Resolved) : Prop where
  license : first.schema.license = second.schema.license
  namePrefix : first.schema.namePrefix = second.schema.namePrefix
  constants : (first.schema.constants.mergeSort fun a b => a.name ≤ b.name) =
    second.schema.constants.mergeSort fun a b => a.name ≤ b.name
  valueTypes : (first.schema.valueTypes.mergeSort fun a b => b.name ≤ a.name) =
    second.schema.valueTypes.mergeSort fun a b => b.name ≤ a.name
  objects : (first.schema.objects.mergeSort fun a b => a.name ≤ b.name) =
    second.schema.objects.mergeSort fun a b => a.name ≤ b.name
  freeFunctions : (first.schema.freeFunctions.mergeSort fun a b => a.name ≤ b.name) =
    second.schema.freeFunctions.mergeSort fun a b => a.name ≤ b.name
  functionPointers : (first.schema.functionPointers.mergeSort fun a b => a.name ≤ b.name) =
    second.schema.functionPointers.mergeSort fun a b => a.name ≤ b.name
  enumerations : first.schema.enumerations = second.schema.enumerations
  bitmasks : first.schema.bitmasks = second.schema.bitmasks
  structOrder : first.structOrder = second.structOrder
  structsInOrder : first.structsInOrder = second.structsInOrder
  kinds : first.kind? = second.kind?

variable {first second : Resolved}

theorem Alike.typeKind? (h : Alike first second) : first.typeKind? = second.typeKind? := by
  funext type
  rw [Resolved.typeKind?, Resolved.typeKind?, h.kinds]

theorem Alike.cType (h : Alike first second) : Header.cType first = Header.cType second := by
  funext naming type
  cases type with
  | primitive text => rfl
  | reference name =>
      rw [Header.cType, Header.cType, Resolved.isBitmask, Resolved.isBitmask, h.typeKind?]

theorem Alike.signatureOf (h : Alike first second) :
    Header.signatureOf first = Header.signatureOf second := by
  have qualifiers : argumentQualifiers first = argumentQualifiers second := by
    funext naming mode argument
    rw [argumentQualifiers, argumentQualifiers, Resolved.isStruct, Resolved.isStruct, h.typeKind?]
  have parameter : argumentParameter first = argumentParameter second := by
    funext naming mode argument
    rw [argumentParameter, argumentParameter, qualifiers, h.cType]
  funext naming mode owner function
  rw [Header.signatureOf, Header.signatureOf, ownerParameters, ownerParameters, callbackParameters,
    callbackParameters, parameter, h.cType]

theorem Alike.structDeclaration (h : Alike first second) :
    Header.structDeclaration first = Header.structDeclaration second := by
  have field : memberField first = memberField second := by
    funext naming part
    rw [memberField, memberField, h.cType]
  funext naming struct
  rw [Header.structDeclaration, Header.structDeclaration, field]

theorem Alike.ownerGroups (h : Alike first second) :
    Header.ownerGroups first = Header.ownerGroups second := by
  rw [Header.ownerGroups, Header.ownerGroups, h.freeFunctions, h.objects, h.structsInOrder]

/-- Every section has the same pieces. -/
theorem Alike.items (h : Alike first second) (naming : Naming) (guard : String)
    (kind : SectionKind) : kind.items first naming guard = kind.items second naming guard := by
  cases kind with
  | banner => rw [SectionKind.items, SectionKind.items, h.license]
  | constants =>
      rw [SectionKind.items, SectionKind.items, constantDeclarations, constantDeclarations,
        h.constants]
  | valueTypes =>
      have declare : valueDeclaration first = valueDeclaration second := by
        funext naming type
        rw [valueDeclaration, valueDeclaration, h.cType]
      rw [SectionKind.items, SectionKind.items, valueDeclarations, valueDeclarations, h.valueTypes,
        declare]
  | handles =>
      rw [SectionKind.items, SectionKind.items, handleDeclarations, handleDeclarations, h.objects]
  | forwardDeclarations =>
      rw [SectionKind.items, SectionKind.items, forwardSection, forwardSection, forwardDeclarations,
        forwardDeclarations, h.structOrder]
  | enumerations =>
      rw [SectionKind.items, SectionKind.items, enumerationSection, enumerationSection,
        h.enumerations]
  | bitmasks =>
      have flags : flagsDeclaration first = flagsDeclaration second := by
        funext naming bitmask
        rw [flagsDeclaration, flagsDeclaration, h.cType]
      rw [SectionKind.items, SectionKind.items, bitmaskSection, bitmaskSection, h.bitmasks, flags]
  | functionPointers =>
      have declare : functionPointerDeclaration first = functionPointerDeclaration second := by
        funext naming function
        rw [functionPointerDeclaration, functionPointerDeclaration, h.signatureOf]
      rw [SectionKind.items, SectionKind.items, functionPointerDeclarations,
        functionPointerDeclarations, h.functionPointers, declare]
  | structures =>
      rw [SectionKind.items, SectionKind.items, structSection, structSection, h.structsInOrder,
        h.structDeclaration]
  | procs =>
      have declare : procDeclaration first = procDeclaration second := by
        funext naming owner function
        rw [procDeclaration, procDeclaration, h.signatureOf]
      rw [SectionKind.items, SectionKind.items, procSection, procSection, h.ownerGroups, declare]
  | prototypes =>
      have declare : prototypeDeclaration first = prototypeDeclaration second := by
        funext naming owner function
        rw [prototypeDeclaration, prototypeDeclaration, h.signatureOf]
      rw [SectionKind.items, SectionKind.items, prototypeSection, prototypeSection, h.ownerGroups,
        declare]
  | guardOpen | exportSelection | featureGuards | includes | linkageOpen | linkageClose
  | guardClose =>
      rfl

/-- The same material makes the same text. -/
theorem Alike.generate (h : Alike first second) (options : Options) :
    Header.generate options first = Header.generate options second := by
  have naming : namingOf first = namingOf second := by
    rw [namingOf, namingOf, h.namePrefix]
  have guard : guardOf options first = guardOf options second := by
    rw [guardOf, guardOf, naming]
  have same : sections options first = sections options second := by
    rw [sections, sections, naming, guard]
    apply List.map_congr_left
    intro kind _
    rw [h.items]
  rw [Header.generate, Header.generate, same]

end Header

/-- The names of the types of one kind are among those of all types. -/
theorem Schema.names_filterMap_sublist {α : Type} {select : TypeDef → Option α} {name : α → String}
    (named : ∀ definition selected, select definition = some selected →
      name selected = definition.name) (types : List TypeDef) :
    ((types.filterMap select).map name).Sublist (types.map TypeDef.name) := by
  induction types with
  | nil => exact .slnil
  | cons definition types ih =>
      rw [List.map_cons]
      cases chosen : select definition with
      | none =>
          rw [List.filterMap_cons_none chosen]
          exact ih.cons _
      | some selected =>
          rw [List.filterMap_cons_some chosen, List.map_cons, named _ _ chosen]
          exact ih.cons_cons _

/-- Rearranged schemas are resolved to the same material. -/
theorem alike_of_rearranged {schema other : Schema} {resolved resolved' : Resolved}
    (upToDate : schema.UpToDate) (upToDate' : other.UpToDate) (distinct : schema.DistinctNames)
    (rearranged : Rearranged schema other) (ordered : Resolved.ofSchema schema = .ok resolved)
    (ordered' : Resolved.ofSchema other = .ok resolved') : Alike resolved resolved' := by
  obtain ⟨depths, found, rfl⟩ := Resolved.ofSchema_eq_ok ordered
  obtain ⟨depths', found', rfl⟩ := Resolved.ofSchema_eq_ok ordered'
  have lookups := struct?_eq_of_rearranged upToDate upToDate' distinct rearranged
  have order := structOrder_eq_of_rearranged upToDate upToDate' lookups rearranged found found'
  constructor
  case license => exact rearranged.license
  case namePrefix => exact rearranged.namePrefix
  case constants => exact mergeSort_key_eq_of_perm _ rearranged.constants distinct.constants
  case valueTypes =>
      apply mergeSort_key_flip_eq_of_perm _ (rearranged.types.filterMap TypeDef.value?)
      refine distinct.types.sublist (names_filterMap_sublist ?_ schema.types)
      rintro ⟨⟩ _ ⟨⟩
      rfl
  case objects => exact mergeSort_key_eq_of_perm _ rearranged.objects distinct.objects
  case freeFunctions =>
      exact mergeSort_key_eq_of_perm _ rearranged.freeFunctions distinct.freeFunctions
  case functionPointers =>
      exact mergeSort_key_eq_of_perm _ rearranged.functionPointers distinct.functionPointers
  case enumerations => exact rearranged.enumerations
  case bitmasks => exact rearranged.bitmasks
  case structOrder => exact order
  case structsInOrder =>
      rw [Resolved.structsInOrder, Resolved.structsInOrder, order, lookups]
  case kinds =>
      funext name
      exact find?_entityKinds_eq_of_rearranged distinct rearranged name

/-- A schema can be resolved exactly if its structures have depths. -/
theorem Resolved.exists_ofSchema_iff {schema : Schema} :
    (∃ resolved, Resolved.ofSchema schema = .ok resolved) ↔
      ∃ depths, schema.structDepths = .ok depths := by
  constructor
  · intro ⟨resolved, ordered⟩
    obtain ⟨depths, found, _⟩ := Resolved.ofSchema_eq_ok ordered
    exact ⟨depths, found⟩
  · intro ⟨depths, found⟩
    exact ⟨_, Resolved.ofSchema_of_structDepths found⟩

/-- Rearranging the declarations of a schema changes neither whether it has a
header nor the header. -/
theorem header_independent_of_order {schema other : Schema} (upToDate : schema.UpToDate)
    (upToDate' : other.UpToDate) (distinct : schema.DistinctNames)
    (rearranged : Rearranged schema other) :
    ((∃ resolved, Resolved.ofSchema schema = .ok resolved) ↔
      ∃ resolved, Resolved.ofSchema other = .ok resolved) ∧
    ∀ resolved resolved', Resolved.ofSchema schema = .ok resolved →
      Resolved.ofSchema other = .ok resolved' →
      ∀ options, generate options resolved = generate options resolved' := by
  have lookups := struct?_eq_of_rearranged upToDate upToDate' distinct rearranged
  constructor
  · rw [Resolved.exists_ofSchema_iff, Resolved.exists_ofSchema_iff]
    constructor
    · exact exists_structDepths_of_rearranged lookups rearranged
    · exact exists_structDepths_of_rearranged lookups.symm rearranged.symm
  · intro resolved resolved' ordered ordered' options
    have alike := alike_of_rearranged upToDate upToDate' distinct rearranged ordered ordered'
    exact alike.generate options

/-- A structure, a scalar and two enumerations, and an object. -/
def mixedSchema : Schema :=
  Schema.rebuildIndex {
    namePrefix := "G"
    types := [.struct poseStruct, .enumeration { name := "Mode" }, .struct vecStruct,
      .enumeration { name := "Axis" }]
    constants := [{ name := "Last", type := .primitive "int", value := "2" },
      { name := "First", type := .primitive "int", value := "1" }]
    objects := [{ name := "Queue" }, { name := "Device", refcounted := true }] }

/-- The same with the structures last and everything else the other way round; the
two enumerations keep their order. -/
def shuffledSchema : Schema :=
  Schema.rebuildIndex { mixedSchema with
    types := [.enumeration { name := "Mode" }, .enumeration { name := "Axis" }, .struct vecStruct,
      .struct poseStruct]
    constants := mixedSchema.constants.reverse
    objects := mixedSchema.objects.reverse }

theorem rearranged_shuffledSchema : Rearranged mixedSchema shuffledSchema where
  license := rfl
  namePrefix := rfl
  constants := (List.reverse_perm _).symm
  types := by decide +kernel
  enumerations := rfl
  bitmasks := rfl
  freeFunctions := .refl _
  functionPointers := .refl _
  objects := (List.reverse_perm _).symm

theorem mixedSchema_header_eq_shuffledSchema_header :
    mixedSchema.UpToDate ∧ shuffledSchema.UpToDate ∧ mixedSchema.DistinctNames ∧
    Rearranged mixedSchema shuffledSchema ∧
    ∃ resolved resolved', Resolved.ofSchema mixedSchema = .ok resolved ∧
      Resolved.ofSchema shuffledSchema = .ok resolved' ∧
      generate { linkage := false } resolved = generate { linkage := false } resolved' := by
  have upToDate : mixedSchema.UpToDate := upToDate_of_indexed rfl
  have upToDate' : shuffledSchema.UpToDate := upToDate_of_indexed rfl
  have distinct : mixedSchema.DistinctNames := by
    constructor <;> decide +kernel
  have depths : mixedSchema.structDepths = .ok ⟨[("Pose", 1), ("Vec", 0)]⟩ := by decide +kernel
  obtain ⟨ordering, same⟩ := header_independent_of_order upToDate upToDate' distinct
    rearranged_shuffledSchema
  obtain ⟨resolved, ordered⟩ := Resolved.exists_ofSchema_iff.2 ⟨_, depths⟩
  obtain ⟨resolved', ordered'⟩ := ordering.1 ⟨resolved, ordered⟩
  exact ⟨upToDate, upToDate', distinct, rearranged_shuffledSchema, resolved, resolved', ordered,
    ordered', same resolved resolved' ordered ordered' _⟩

end ApiHeader
