/-
# Validation

Checks that a header can be generated without, for callers who would rather
refuse a doubtful description. The first failing check is the one reported, and
within a list of names the first that was there before.
-/

import ApiHeader.Schema.Depth

namespace ApiHeader.Schema

/-- The first name that repeats one of those before it, given names already seen. -/
def firstRepeatFrom? (seen : List String) : List String → Option String
  | [] => none
  | name :: rest => if name ∈ seen then some name else firstRepeatFrom? (name :: seen) rest

/-- The first name that repeats an earlier one. -/
def firstRepeat? (names : List String) : Option String :=
  firstRepeatFrom? [] names

/-- The names declared in a category. -/
def namesOf (schema : Schema) : Category → List String
  | .constant => schema.constants.map Constant.name
  | .value => schema.valueTypes.map ValueType.name
  | .enumeration => schema.enumerations.map Enumeration.name
  | .bitmask => schema.bitmasks.map Enumeration.name
  | .struct => schema.structs.map Struct.name
  | .freeFunction => schema.freeFunctions.map Function.name
  | .functionPointer => schema.functionPointers.map Function.name
  | .object => schema.objects.map Object.name

/-- Every name of the category is declared once. -/
def checkCategory (schema : Schema) (category : Category) : Except SchemaError Unit :=
  match firstRepeat? (schema.namesOf category) with
  | some name => .error (.duplicate category name)
  | none => .ok ()

/-- Every entry or member of a definition has a name of its own. -/
def checkDefinition : TypeDef → Except SchemaError Unit
  | .value _ => .ok ()
  | .enumeration definition | .bitmask definition =>
    match firstRepeat? (definition.entries.map Entry.name) with
    | some name => .error (.repeatedEntry definition.name name)
    | none => .ok ()
  | .struct definition =>
    match firstRepeat? (definition.members.map Member.name) with
    | some name => .error (.repeatedMember definition.name name)
    | none => .ok ()

/-- Check names category by category, the definitions of types one by one, and at
last that no structure contains itself. -/
def validate (schema : Schema) : Except SchemaError Unit := do
  [Category.constant, .value, .enumeration, .bitmask, .struct].forM schema.checkCategory
  schema.types.forM checkDefinition
  [Category.freeFunction, .functionPointer, .object].forM schema.checkCategory
  let _ ← schema.structDepths
  return ()

end ApiHeader.Schema
