/-
# Names of fields

The body of a structure lists the fields that link it into chains and then its members. The
members of a valid structure have names that differ, but the names of the leading fields are
fixed and no one compares them with those of the members. So the fields of a body differ
exactly if the leading fields do among themselves and no member has the name of one. The
leading fields do differ in every structure that does not take part in chains in both
directions at once.
-/

import ApiHeader.Proofs.StructBodies

namespace ApiHeader

open Schema Header

variable {schema : Schema} {resolved : Resolved}

/-- The names of the fields that lead a structure which takes part in chains. -/
def Schema.Struct.chainNames (struct : Struct) : List String :=
  (if struct.extensible = .input then ["nextInChain"] else []) ++
  (if struct.chained = .input then ["chain"] else []) ++
  (if struct.chained = .output ∨ struct.extensible = .output then ["nextInChain"] else [])

/-- The leading fields have different names unless the structure is extended as an input and
is itself chained as an output. -/
theorem Schema.Struct.chainNames_nodup {struct : Struct}
    (h : ¬ (struct.extensible = .input ∧ struct.chained = .output)) :
    struct.chainNames.Nodup := by
  rw [chainNames]
  cases extensible : struct.extensible <;> cases chained : struct.chained <;> simp_all

/-- Every structure that is looked up is declared, whether or not the index is in step. -/
theorem Schema.mem_types_of_struct? {name : String} {struct : Struct}
    (found : schema.struct? name = some struct) : .struct struct ∈ schema.types := by
  obtain ⟨definition, there, isStruct⟩ := Option.bind_eq_some_iff.1 found
  obtain ⟨place, _, atPlace⟩ := Option.bind_eq_some_iff.1 there
  cases definition <;> cases isStruct
  exact List.mem_of_getElem? atPlace

namespace Header

/-- The names of the fields of a body. -/
def Declaration.fieldNames : Declaration → List String
  | .struct _ fields _ => fields.map Declarator.name
  | _ => []

theorem fieldNames_structDeclaration (resolved : Resolved) (naming : Naming) (struct : Struct) :
    (structDeclaration resolved naming struct).fieldNames =
      struct.chainNames ++ struct.members.map Member.name := by
  have members : (struct.members.map (memberField resolved naming)).map Declarator.name =
      struct.members.map Member.name := List.map_map
  have leading : (chainFields naming struct).map Declarator.name = struct.chainNames := by
    simp only [chainFields, Struct.chainNames, List.map_append,
      apply_ite (List.map Declarator.name), List.map_cons, List.map_nil]
  rw [structDeclaration, Declaration.fieldNames, List.map_append, members, leading]

theorem fieldNames_chainHeaders (naming : Naming) :
    ∀ body ∈ chainHeaders naming, body.fieldNames.Nodup := by
  have distinct : ["next", "sType"].Nodup := by decide
  simp only [chainHeaders, List.forall_mem_cons]
  exact ⟨distinct, distinct, List.forall_mem_nil _⟩

end Header

/-- In the header of a valid schema the fields of a body differ in their names exactly if those
that lead it do and no member has the name of one of them. -/
theorem fields_nodup_iff_of_valid (valid : schema.validate = .ok ()) :
    ∃ resolved, Resolved.ofSchema schema = .ok resolved ∧
      (structSection resolved (namingOf resolved)).filterMap Item.body? =
        chainHeaders (namingOf resolved) ++
          resolved.structsInOrder.map (structDeclaration resolved (namingOf resolved)) ∧
      (∀ body ∈ chainHeaders (namingOf resolved), body.fieldNames.Nodup) ∧
      ∀ struct ∈ resolved.structsInOrder,
        let body := structDeclaration resolved (namingOf resolved) struct
        body.fieldNames = struct.chainNames ++ struct.members.map Member.name ∧
        (body.fieldNames.Nodup ↔
          struct.chainNames.Nodup ∧ ∀ part ∈ struct.members, part.name ∉ struct.chainNames) ∧
        (¬ (struct.extensible = .input ∧ struct.chained = .output) → struct.chainNames.Nodup) := by
  obtain ⟨_, parts, depths⟩ := validate_eq_ok_iff.1 valid
  obtain ⟨resolved, ordered⟩ := Resolved.exists_ofSchema_iff.2 depths
  refine ⟨resolved, ordered, bodies_structSection _ _, fieldNames_chainHeaders _, ?_⟩
  intro struct inside body
  have members : (struct.members.map Member.name).Nodup := by
    obtain ⟨depths, _, rfl⟩ := Resolved.ofSchema_eq_ok ordered
    obtain ⟨name, _, found⟩ := List.mem_filterMap.1 inside
    exact parts _ (mem_types_of_struct? found)
  have fields := fieldNames_structDeclaration resolved (namingOf resolved) struct
  refine ⟨fields, ?_, Struct.chainNames_nodup⟩
  rw [fields, List.nodup_append']
  constructor
  · rintro ⟨leading, _, apart⟩
    exact ⟨leading, fun part own taken => apart taken (List.mem_map_of_mem own)⟩
  · rintro ⟨leading, apart⟩
    refine ⟨leading, members, fun name taken own => ?_⟩
    obtain ⟨part, inside, rfl⟩ := List.mem_map.1 own
    exact apart part inside taken

/-- A structure with a member that has the name of its leading field, one that is chained in both
directions, and one with leading fields of different names. -/
def linkedDocument : String :=
  "<api><metadata><prefix><c>P</c></prefix></metadata><types>
    <struct name='A'><chained dir='in'/><member name='chain' type='int'/></struct>
    <struct name='B' extensible='in'><chained dir='out'/></struct>
    <struct name='C' extensible='in'><chained dir='in'/><member name='x' type='int'/></struct>
  </types></api>"

def ownChainStruct : Struct :=
  { name := "A", members := [{ name := "chain", type := .primitive "int" }], chained := .input }

def bothWaysStruct : Struct :=
  { name := "B", extensible := .input, chained := .output }

def linkStruct : Struct where
  name := "C"
  members := [{ name := "x", type := .primitive "int" }]
  extensible := .input
  chained := .input

def linkedSchema : Schema :=
  Schema.rebuildIndex
    { namePrefix := "P"
      types := [.struct ownChainStruct, .struct bothWaysStruct, .struct linkStruct] }

set_option maxRecDepth 10000 in
theorem load_linkedDocument : Schema.load linkedDocument = .ok linkedSchema := by
  have text : Markup.events linkedDocument = Markup.eventsFrom [] _ :=
    Description.events_ofList (by decide)
  rewrite [Schema.load, text]
  decide +kernel

theorem validate_linkedSchema : linkedSchema.validate = .ok () := by
  decide +kernel

theorem mem_structsInOrder_linkedSchema (ordered : Resolved.ofSchema linkedSchema = .ok resolved)
    {struct : Struct} (found : linkedSchema.struct? struct.name = some struct) :
    struct ∈ resolved.structsInOrder :=
  (mem_structsInOrder_iff (upToDate_of_load load_linkedDocument) ordered).2 found

theorem linkedSchema_fields_nodup :
    linkedSchema.validate = .ok () ∧
      ∃ resolved, Resolved.ofSchema linkedSchema = .ok resolved ∧
        linkStruct ∈ resolved.structsInOrder ∧
        (structDeclaration resolved (namingOf resolved) linkStruct).fieldNames.Nodup := by
  obtain ⟨resolved, ordered, _, _, bodies⟩ := fields_nodup_iff_of_valid validate_linkedSchema
  have found : linkedSchema.struct? "C" = some linkStruct := by decide +kernel
  have inside : linkStruct ∈ resolved.structsInOrder :=
    mem_structsInOrder_linkedSchema ordered found
  obtain ⟨_, distinct, leading⟩ := bodies linkStruct inside
  exact ⟨validate_linkedSchema, resolved, ordered, inside,
    distinct.2 ⟨leading (by decide), by decide⟩⟩

/-- Validation accepts structures in whose bodies a name comes twice. -/
theorem linkedDocument_repeats_fields :
    Schema.load linkedDocument = .ok linkedSchema ∧ linkedSchema.validate = .ok () ∧
      ∃ resolved, Resolved.ofSchema linkedSchema = .ok resolved ∧
        ownChainStruct ∈ resolved.structsInOrder ∧ bothWaysStruct ∈ resolved.structsInOrder ∧
        (structDeclaration resolved (namingOf resolved) ownChainStruct).fieldNames =
          ["chain", "chain"] ∧
        (structDeclaration resolved (namingOf resolved) bothWaysStruct).fieldNames =
          ["nextInChain", "nextInChain"] := by
  obtain ⟨resolved, ordered⟩ := exists_ofSchema_of_validate validate_linkedSchema
  have first : linkedSchema.struct? "A" = some ownChainStruct := by decide +kernel
  have second : linkedSchema.struct? "B" = some bothWaysStruct := by decide +kernel
  refine ⟨load_linkedDocument, validate_linkedSchema, resolved, ordered,
    mem_structsInOrder_linkedSchema ordered first, mem_structsInOrder_linkedSchema ordered second,
    ?_, ?_⟩
  · rw [fieldNames_structDeclaration]
    rfl
  · rw [fieldNames_structDeclaration]
    rfl

end ApiHeader
