/-
# Errors of a schema

What can be wrong with a schema that was read without complaint. The categories
are the name spaces within which a name may be declared once.
-/

namespace ApiHeader.Schema

/-- A space of names that are declared once each. -/
inductive Category
  | constant
  | value
  | enumeration
  | bitmask
  | struct
  | freeFunction
  | functionPointer
  | object
  deriving DecidableEq, Repr

/-- What a message calls a member of the category. -/
def Category.label : Category → String
  | constant => "constant"
  | value => "value"
  | enumeration => "enum"
  | bitmask => "bitmask"
  | struct => "struct"
  | freeFunction => "free function"
  | functionPointer => "function pointer"
  | object => "object"

end Schema

open Schema

/-- Why a schema is refused. -/
inductive SchemaError
  /-- Structures contain each other; the path ends with a name it holds before. -/
  | circular (path : List String)
  | duplicate (category : Category) (name : String)
  /-- An enumeration or a bitmask names two entries alike. -/
  | repeatedEntry (owner name : String)
  /-- A structure names two members alike. -/
  | repeatedMember (owner name : String)
  deriving DecidableEq, Repr

/-- The wording of an error. -/
def SchemaError.message : SchemaError → String
  | circular path => "circular structure reference detected: " ++ String.intercalate " -> " path
  | duplicate category name => "duplicate " ++ category.label ++ " definition: '" ++ name ++ "'"
  | repeatedEntry owner name =>
    "validation error: Duplicate entry name '" ++ name ++ "' in '" ++ owner ++ "'"
  | repeatedMember owner name =>
    "validation error: Duplicate member '" ++ name ++ "' in struct '" ++ owner ++ "'"

end ApiHeader
