/-
# The bodies of structures

The structures of a header are reached by name: the order lists names, and each name
is looked up among all types. In a valid schema a name is declared by one structure at
most, but a definition of another kind may take it afterwards, and the lookup then
finds that one. Such a structure has no body, although its name is in the order.
Every other structure has exactly one, with its own members, and the header holds no
bodies besides these and the two that lead chains.
-/

import ApiHeader.Proofs.Rearrangement
import ApiHeader.Proofs.Validation

namespace ApiHeader

open Schema Header

variable {schema : Schema} {resolved : Resolved} {options : Options}

/-! ## Structures that are looked up -/

namespace Schema

/-- The last definition of a structure's name is one of another kind. -/
def Shadowed (schema : Schema) (struct : Struct) : Prop :=
  ∃ other, lastNamed? schema.types struct.name = some other ∧ other.kind ≠ .struct

theorem structOrder_perm (schema : Schema) (depths : Depths) :
    (schema.structOrder depths).Perm (schema.structs.map Struct.name) :=
  (List.mergeSort_perm _ _).trans (List.mergeSort_perm _ _)

/-- The second sort leaves the names of one depth as the first one put them. -/
theorem structOrder_ascending (schema : Schema) (depths : Depths) :
    (schema.structOrder depths).Pairwise fun a b =>
      depthIn depths a ≤ depthIn depths b ∧ (depthIn depths a = depthIn depths b → a ≤ b) :=
  pairwise_mergeSort_ties (depthIn depths) (pairwise_mergeSort_key (fun name : String => name) _)

/-- The names of the structures ascend in no other order. -/
theorem structOrder_eq_of_ascending {depths : Depths} {names : List String}
    (perm : names.Perm (schema.structs.map Struct.name))
    (ascending : names.Pairwise fun a b =>
      depthIn depths a ≤ depthIn depths b ∧ (depthIn depths a = depthIn depths b → a ≤ b)) :
    schema.structOrder depths = names := by
  refine ((structOrder_perm schema depths).trans perm.symm).eq_of_pairwise ?_
    (structOrder_ascending schema depths) ascending
  rintro a b _ _ ⟨le, ties⟩ ⟨ge, ties'⟩
  have sameDepth := Nat.le_antisymm le ge
  exact String.le_antisymm (ties sameDepth) (ties' sameDepth.symm)

theorem mem_structs_iff {struct : Struct} :
    struct ∈ schema.structs ↔ .struct struct ∈ schema.types := by
  rw [structs, List.mem_filterMap]
  constructor
  · rintro ⟨definition, inside, isStruct⟩
    cases definition <;> cases isStruct
    exact inside
  · intro inside
    exact ⟨.struct struct, inside, rfl⟩

/-- Where structures have names of their own, a structure is looked up at its name
unless it is shadowed. -/
theorem struct?_name_eq_some_iff (upToDate : schema.UpToDate)
    (distinct : (schema.structs.map Struct.name).Nodup) {struct : Struct} :
    schema.struct? struct.name = some struct ↔
      struct ∈ schema.structs ∧ ¬ schema.Shadowed struct := by
  constructor
  · intro found
    refine ⟨(upToDate.struct?_eq_some found).1, ?_⟩
    rintro ⟨other, last, notStruct⟩
    rw [struct?, upToDate.type?_eq, last, Option.bind_some] at found
    cases other <;> cases found
    exact notStruct rfl
  · rintro ⟨inside, visible⟩
    have declared := mem_structs_iff.1 inside
    cases last : lastNamed? schema.types struct.name with
    | none => exact absurd rfl (lastNamed?_eq_none_iff.1 last _ declared)
    | some other =>
        have isStruct : other.kind = .struct := by
          by_contra notStruct
          exact visible ⟨other, last, notStruct⟩
        cases other with
        | struct other =>
            -- two structures of one name are the same one
            obtain ⟨inside', named⟩ := lastNamed?_eq_some last
            have same := List.inj_on_of_nodup_map distinct (mem_structs_iff.2 inside') inside named
            rw [struct?, upToDate.type?_eq, last, same]
            rfl
        | value other => cases isStruct
        | enumeration other => cases isStruct
        | bitmask other => cases isStruct

end Schema

/-- A schema that passes validation can be resolved. -/
theorem exists_ofSchema_of_validate (valid : schema.validate = .ok ()) :
    ∃ resolved, Resolved.ofSchema schema = .ok resolved :=
  Resolved.exists_ofSchema_iff.2 (validate_eq_ok_iff.1 valid).depths

theorem mem_structsInOrder_iff (upToDate : schema.UpToDate)
    (ordered : Resolved.ofSchema schema = .ok resolved) {struct : Struct} :
    struct ∈ resolved.structsInOrder ↔ schema.struct? struct.name = some struct := by
  obtain ⟨depths, _, rfl⟩ := Resolved.ofSchema_eq_ok ordered
  rw [Resolved.structsInOrder, List.mem_filterMap]
  constructor
  · rintro ⟨name, _, found⟩
    rw [(upToDate.struct?_eq_some found).2]
    exact found
  · intro found
    exact ⟨struct.name, mem_structOrder_iff.2 ⟨struct, upToDate.struct?_eq_some found⟩, found⟩

theorem structsInOrder_nodup (upToDate : schema.UpToDate)
    (ordered : Resolved.ofSchema schema = .ok resolved)
    (distinct : (schema.structs.map Struct.name).Nodup) : resolved.structsInOrder.Nodup := by
  obtain ⟨depths, _, rfl⟩ := Resolved.ofSchema_eq_ok ordered
  apply List.Nodup.filterMap
  · intro name name' struct found found'
    rw [← (upToDate.struct?_eq_some found).2, (upToDate.struct?_eq_some found').2]
  · exact (structOrder_perm schema depths).nodup_iff.2 distinct

/-! ## Bodies in the header -/

namespace Header

/-- The declaration of a piece, if it is the body of a structure. -/
def Item.body? : Item → Option Declaration
  | .declaration (.struct name fields mark) => some (.struct name fields mark)
  | _ => none

theorem Item.body?_eq_some {item : Item} {declaration : Declaration}
    (h : item.body? = some declaration) :
    item = .declaration declaration ∧ declaration.sectionKinds = [.structures] := by
  cases item with
  | line content => cases h
  | declaration content =>
      cases content <;> cases h
      exact ⟨rfl, rfl⟩

/-- Only one section holds bodies. -/
theorem bodies_items_eq_nil {kind : SectionKind} (other : kind ≠ .structures) {naming : Naming}
    {guard : String} : (kind.items resolved naming guard).filterMap Item.body? = [] := by
  rw [List.filterMap_eq_nil_iff]
  intro item inside
  cases body : item.body? with
  | none => rfl
  | some declaration =>
      obtain ⟨rfl, kinds⟩ := Item.body?_eq_some body
      have here := mem_sectionKinds inside
      rw [kinds, List.mem_singleton] at here
      exact absurd here other

theorem bodies_structSection (resolved : Resolved) (naming : Naming) :
    (structSection resolved naming).filterMap Item.body? =
      chainHeaders naming ++ resolved.structsInOrder.map (structDeclaration resolved naming) := by
  have own (struct : Struct) :
      (chainComment naming struct ++ paragraph [structDeclaration resolved naming struct]).filterMap
        Item.body? = [structDeclaration resolved naming struct] := by
    rw [List.filterMap_append, chainComment]
    split <;> rfl
  have all : (resolved.structsInOrder.flatMap fun struct =>
      chainComment naming struct ++ paragraph [structDeclaration resolved naming struct]).filterMap
        Item.body? = resolved.structsInOrder.map (structDeclaration resolved naming) := by
    rw [List.filterMap_flatMap, List.map_eq_flatMap]
    simp only [own]
  rw [structSection, List.filterMap_append, all]
  rfl

/-- A header holds the bodies of its structures in order, behind those that lead
chains. -/
theorem bodies_pieces (options : Options) (resolved : Resolved) :
    (pieces options resolved).filterMap Item.body? =
      chainHeaders (namingOf resolved) ++
        resolved.structsInOrder.map (structDeclaration resolved (namingOf resolved)) := by
  rw [← bodies_structSection, pieces, sections, List.flatMap_map, List.filterMap_flatMap]
  have held (kind : SectionKind) :
      (kind.items resolved (namingOf resolved) (guardOf options resolved)).filterMap Item.body? =
        if kind = .structures then
          (structSection resolved (namingOf resolved)).filterMap Item.body?
        else [] := by
    split
    · next here => rw [here]; rfl
    · next elsewhere => exact bodies_items_eq_nil elsewhere
  simp only [held]
  rw [Options.layout]
  cases options.linkage <;> simp

end Header

/-- In the header of a valid description every structure has one body, except those
whose name was taken by a type of another kind. -/
theorem struct_bodies_of_valid {document : String} (loaded : Schema.load document = .ok schema)
    (valid : schema.validate = .ok ()) :
    ∃ resolved, Resolved.ofSchema schema = .ok resolved ∧
      resolved.structsInOrder.Nodup ∧
      (∀ struct, struct ∈ resolved.structsInOrder ↔
        struct ∈ schema.structs ∧ ¬ schema.Shadowed struct) ∧
      (resolved.structsInOrder.Perm schema.structs ↔
        ∀ struct ∈ schema.structs, ¬ schema.Shadowed struct) ∧
      ∀ options, (pieces options resolved).filterMap Item.body? =
        chainHeaders (namingOf resolved) ++
          resolved.structsInOrder.map (structDeclaration resolved (namingOf resolved)) := by
  have upToDate := upToDate_of_load loaded
  obtain ⟨names, _, depths⟩ := validate_eq_ok_iff.1 valid
  have distinct : (schema.structs.map Struct.name).Nodup := names .struct
  obtain ⟨resolved, ordered⟩ := Resolved.exists_ofSchema_iff.2 depths
  have once := structsInOrder_nodup upToDate ordered distinct
  have mem (struct : Struct) : struct ∈ resolved.structsInOrder ↔
      struct ∈ schema.structs ∧ ¬ schema.Shadowed struct := by
    rw [mem_structsInOrder_iff upToDate ordered, struct?_name_eq_some_iff upToDate distinct]
  refine ⟨resolved, ordered, once, mem, ?_, fun options => bodies_pieces options resolved⟩
  constructor
  · intro perm struct inside
    exact ((mem struct).1 (perm.mem_iff.2 inside)).2
  · intro visible
    refine (List.perm_ext_iff_of_nodup once (List.Nodup.of_map _ distinct)).2 fun struct => ?_
    rw [mem, and_iff_left_of_imp (visible struct)]

/-- A structure whose name an enumeration and a bitmask take, and one that takes the name of
an enumeration. -/
def clashDocument : String :=
  "<api><metadata><prefix><c>P</c></prefix></metadata><types>" ++
  "<struct name='A'><member name='x' type='int'/></struct><enum name='A'/><bitmask name='A'/>" ++
  "<enum name='B'/><struct name='B'><member name='y' type='int'/></struct></types></api>"

def takenStruct : Struct :=
  { name := "A", members := [{ name := "x", type := .primitive "int" }] }

def takingStruct : Struct :=
  { name := "B", members := [{ name := "y", type := .primitive "int" }] }

def clashSchema : Schema :=
  Schema.rebuildIndex
    { namePrefix := "P"
      types := [.struct takenStruct, .enumeration { name := "A" }, .bitmask { name := "A" },
        .enumeration { name := "B" }, .struct takingStruct] }

set_option maxRecDepth 10000 in
theorem load_clashDocument : Schema.load clashDocument = .ok clashSchema := by
  have text : Markup.events clashDocument = Markup.eventsFrom [] _ :=
    Description.events_of_spelled
      (Description.append_eq_ofList (Description.append_eq_ofList rfl rfl) rfl) (by decide)
  rewrite [Schema.load, text]
  decide +kernel

theorem validate_clashSchema : clashSchema.validate = .ok () := by
  decide +kernel

theorem clashDocument_struct_bodies :
    Schema.load clashDocument = .ok clashSchema ∧ clashSchema.validate = .ok () ∧
      ∃ resolved, Resolved.ofSchema clashSchema = .ok resolved ∧
        takingStruct ∈ resolved.structsInOrder ∧
        ∀ options, (pieces options resolved).filterMap Item.body? =
          chainHeaders (namingOf resolved) ++
            resolved.structsInOrder.map (structDeclaration resolved (namingOf resolved)) := by
  have visible : ¬ clashSchema.Shadowed takingStruct := by
    rintro ⟨other, last, notStruct⟩
    have found : lastNamed? clashSchema.types takingStruct.name = some (.struct takingStruct) := by
      decide +kernel
    rw [found] at last
    cases last
    exact notStruct rfl
  obtain ⟨resolved, ordered, _, mem, _, bodies⟩ :=
    struct_bodies_of_valid load_clashDocument validate_clashSchema
  refine ⟨load_clashDocument, validate_clashSchema, resolved, ordered,
    (mem takingStruct).2 ⟨?_, visible⟩, bodies⟩
  exact mem_structs_iff.2 (by decide +kernel)

/-- The structure whose name was taken is declared forward and has no body. -/
theorem clashDocument_loses_struct :
    Schema.load clashDocument = .ok clashSchema ∧ clashSchema.validate = .ok () ∧
      takenStruct ∈ clashSchema.structs ∧
      ∃ resolved, Resolved.ofSchema clashSchema = .ok resolved ∧
        .declaration (.forward "PA") ∈ pieces {} resolved ∧
        takenStruct ∉ resolved.structsInOrder ∧
        ¬ resolved.structsInOrder.Perm clashSchema.structs := by
  have declared : takenStruct ∈ clashSchema.structs := by decide +kernel
  obtain ⟨resolved, ordered⟩ := exists_ofSchema_of_validate validate_clashSchema
  have lost : takenStruct ∉ resolved.structsInOrder := by
    rw [mem_structsInOrder_iff (upToDate_of_load load_clashDocument) ordered]
    decide +kernel
  refine ⟨load_clashDocument, validate_clashSchema, declared, resolved, ordered, ?_, lost,
    fun perm => ?_⟩
  · obtain ⟨depths, _, rfl⟩ := Resolved.ofSchema_eq_ok ordered
    have inside : .forwardDeclarations ∈ ({} : Options).layout := by decide
    apply mem_pieces inside
    refine declaration_mem_forwardSection.2 (List.mem_map.2 ⟨"A", ?_, rfl⟩)
    exact mem_structOrder_iff.2 ⟨takenStruct, declared, rfl⟩
  · exact lost (perm.mem_iff.2 declared)

end ApiHeader
