/-
# Descriptions of an interface

A schema is everything that one description declares, together with an index from
type names to places in the list of types. The index is kept by `addType` and
`rebuildIndex`; whoever edits the list directly leaves it as it was, and lookups
then answer from the old places.
-/

import ApiHeader.Schema.NameTable
import ApiHeader.Schema.TypeDef

namespace ApiHeader.Schema

/-- A named constant with its value as written. -/
structure Constant where
  name : String
  type : TypeRef
  value : String
  deriving DecidableEq, Repr

/-- The text of a constant's value: two tokens stand for the largest unsigned
numbers of their width. -/
def constantLiteral (value : String) : String :=
  if value = "UINT64_MAX" then "0xffffffffffffffffULL"
  else if value = "UINT32_MAX" then "0xffffffffUL"
  else value

/-- The text of the constant's value. -/
def Constant.literal (constant : Constant) : String :=
  constantLiteral constant.value

end Schema

open Schema

/-- What one description declares. -/
structure Schema where
  license : String := ""
  /-- What every public name starts with. -/
  namePrefix : String := ""
  constants : List Constant := []
  types : List TypeDef := []
  freeFunctions : List Function := []
  functionPointers : List Function := []
  objects : List Object := []
  /-- The place in `types` at which a name is looked up. -/
  index : NameTable Nat := .empty
  deriving DecidableEq

namespace Schema

/-- Declare a type after the others and look its name up there. -/
def addType (schema : Schema) (definition : TypeDef) : Schema :=
  { schema with
    types := schema.types ++ [definition]
    index := schema.index.insert definition.name schema.types.length }

/-- The index of a list of types whose first stands at the given place. -/
def indexFrom (place : Nat) (index : NameTable Nat) : List TypeDef → NameTable Nat
  | [] => index
  | definition :: rest => indexFrom (place + 1) (index.insert definition.name place) rest

/-- Look every name up at its last definition. -/
def rebuildIndex (schema : Schema) : Schema :=
  { schema with index := indexFrom 0 .empty schema.types }

/-- The definition that a name is looked up at. -/
def type? (schema : Schema) (name : String) : Option TypeDef :=
  (schema.index.find? name).bind fun place => schema.types[place]?

/-- Whether a name is in the index. -/
def hasType (schema : Schema) (name : String) : Bool :=
  schema.index.contains name

/-- The structure that a name is looked up at. -/
def struct? (schema : Schema) (name : String) : Option Struct :=
  (schema.type? name).bind TypeDef.struct?

/-- The scalars in the order of the description. -/
def valueTypes (schema : Schema) : List ValueType :=
  schema.types.filterMap TypeDef.value?

/-- The enumerations in the order of the description. -/
def enumerations (schema : Schema) : List Enumeration :=
  schema.types.filterMap TypeDef.enumeration?

/-- The bitmasks in the order of the description. -/
def bitmasks (schema : Schema) : List Enumeration :=
  schema.types.filterMap TypeDef.bitmask?

/-- The structures in the order of the description. -/
def structs (schema : Schema) : List Struct :=
  schema.types.filterMap TypeDef.struct?

end Schema

end ApiHeader
