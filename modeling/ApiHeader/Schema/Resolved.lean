/-
# Resolved schemas

A schema together with what its types refer to and the order in which its
structures are declared. A schema whose structures contain each other has no such
order and cannot be resolved.
-/

import ApiHeader.Schema.Depth

namespace ApiHeader.Schema

/-- What a name stands for. -/
inductive EntityKind
  | value
  | enumeration
  | bitmask
  | struct
  | object
  | functionPointer
  deriving DecidableEq, Repr

/-- The kind of entity that a definition introduces. -/
def TypeDef.kind : TypeDef → EntityKind
  | .value _ => .value
  | .enumeration _ => .enumeration
  | .bitmask _ => .bitmask
  | .struct _ => .struct

/-- The kinds of all names. Objects come after types and function pointers after
objects, and a later entry hides an earlier one of its name. -/
def entityKinds (schema : Schema) : NameTable EntityKind :=
  let named :=
    schema.types.map (fun definition => (definition.name, definition.kind)) ++
    schema.objects.map (fun object => (object.name, .object)) ++
    schema.functionPointers.map (fun function => (function.name, .functionPointer))
  named.foldl (fun table entry => table.insert entry.1 entry.2) .empty

end Schema

open Schema

/-- A schema with its references resolved and its structures in order. -/
structure Resolved where
  schema : Schema
  kinds : NameTable EntityKind
  depths : Depths
  /-- The names of the structures in the order of their declaration. -/
  structOrder : List String

namespace Resolved

/-- Resolve a schema. -/
def ofSchema (schema : Schema) : Except SchemaError Resolved := do
  let depths ← schema.structDepths
  return {
    schema
    kinds := schema.entityKinds
    depths
    structOrder := schema.structOrder depths }

theorem ofSchema_of_structDepths {schema : Schema} {depths : Depths}
    (found : schema.structDepths = .ok depths) :
    ofSchema schema = .ok ⟨schema, schema.entityKinds, depths, schema.structOrder depths⟩ := by
  rw [ofSchema, found]
  rfl

/-- What a name stands for. -/
def kind? (resolved : Resolved) (name : String) : Option EntityKind :=
  resolved.kinds.find? name

/-- What a type refers to. -/
def typeKind? (resolved : Resolved) (type : TypeRef) : Option EntityKind :=
  type.reference?.bind resolved.kind?

/-- Whether a type refers to a structure. -/
def isStruct (resolved : Resolved) (type : TypeRef) : Bool :=
  resolved.typeKind? type = some .struct

/-- Whether a type refers to a bitmask. -/
def isBitmask (resolved : Resolved) (type : TypeRef) : Bool :=
  resolved.typeKind? type = some .bitmask

/-- The depth of a structure. -/
def depth? (resolved : Resolved) (name : String) : Option Nat :=
  resolved.depths.find? name

/-- The structures in the order of their declaration. -/
def structsInOrder (resolved : Resolved) : List Struct :=
  resolved.structOrder.filterMap resolved.schema.struct?

end Resolved

end ApiHeader
