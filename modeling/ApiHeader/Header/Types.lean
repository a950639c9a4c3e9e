/-
# Constants and types of a header

The declarations of everything but functions. Constants, handles and scalars are
ordered by name, the scalars from the last to the first; enumerations keep the
order of the description, and structures come in the order of their nesting.
-/

import ApiHeader.Header.Declaration

namespace ApiHeader.Header

open ApiHeader.Schema ApiHeader.Text

variable (resolved : Resolved) (naming : Naming)

/-- The constants. -/
def constantDeclarations : List Declaration :=
  (resolved.schema.constants.mergeSort fun a b => a.name ≤ b.name).map fun constant =>
    .constant (naming.constantName constant.name) constant.literal

/-- A scalar. -/
def valueDeclaration (type : ValueType) : Declaration :=
  .synonym (cType resolved naming type.underlying) (naming.typeName type.name)

/-- The scalars. -/
def valueDeclarations : List Declaration :=
  (resolved.schema.valueTypes.mergeSort fun a b => b.name ≤ a.name).map
    (valueDeclaration resolved naming)

/-- The handle of an object. -/
def handleDeclaration (object : Object) : Declaration :=
  .handle (naming.handleTag object.name) (naming.typeName object.name) naming.objectAttribute

/-- The handles of objects. -/
def handleDeclarations : List Declaration :=
  (resolved.schema.objects.mergeSort fun a b => a.name ≤ b.name).map (handleDeclaration naming)

/-- The structures by their tags. -/
def forwardDeclarations : List Declaration :=
  resolved.structOrder.map fun name => .forward (naming.typeName name)

/-- The structures by their tags, under a heading. -/
def forwardSection : List Item :=
  let declarations := forwardDeclarations resolved naming
  if declarations.isEmpty then []
  else .line (.comment "Structure forward declarations") :: paragraph declarations

/-- A literal of an entry: eight hexadecimal digits for a number below two to the
power of 32, and every other literal as written. -/
def entryLiteral (value : String) : String :=
  match literalNumber? value with
  | some number =>
    if number < UInt32.size then "0x" ++ String.ofList (hexDigits 8 number) else value
  | none => value

/-- The enumeration of some entries. A last enumerator makes its values as wide as
a scalar of 32 bits. -/
def enumerationDeclaration (enumeration : Enumeration) : Declaration :=
  .enumeration (naming.typeName enumeration.name)
    (enumeration.entries.map fun entry =>
      (naming.enumerator enumeration.name entry.name, entryLiteral entry.value))
    (naming.enumerator enumeration.name "Force32", "0x7FFFFFFF")
    naming.enumAttribute

/-- The enumerations. -/
def enumerationSection : List Item :=
  resolved.schema.enumerations.flatMap fun enumeration =>
    paragraph [enumerationDeclaration naming enumeration]

/-- The scalar that holds the values of a bitmask. -/
def flagsDeclaration (bitmask : Enumeration) : Declaration :=
  .markedSynonym (cType resolved naming (.reference "Flags")) (naming.flagsName bitmask.name)
    naming.enumAttribute

/-- The bitmasks, each followed by its scalar. -/
def bitmaskSection : List Item :=
  resolved.schema.bitmasks.flatMap fun bitmask =>
    paragraph [enumerationDeclaration naming bitmask, flagsDeclaration resolved naming bitmask]

/-- A structure that a chain of extensions starts with. -/
def chainHeader (name annotation : String) : Declaration :=
  .struct name
    [{ qualifiers := ["struct"], type := name, annotation := some annotation, name := "next" },
      { type := naming.typeName "SType", name := "sType" }]
    naming.structureAttribute

/-- The structures that chains of extensions start with. -/
def chainHeaders : List Declaration :=
  [chainHeader naming naming.chainedStruct "const *",
    chainHeader naming naming.chainedStructOut "*"]

/-- The fields that lead a structure which takes part in chains. -/
def chainFields (struct : Struct) : List Declarator :=
  (if struct.extensible = .input then
    [{ type := naming.chainedStruct, annotation := some "const *", name := "nextInChain" }]
  else []) ++
  (if struct.chained = .input then [{ type := naming.chainedStruct, name := "chain" }]
  else []) ++
  (if struct.chained = .output ∨ struct.extensible = .output then
    [{ type := naming.chainedStructOut, annotation := some "*", name := "nextInChain" }]
  else [])

/-- The field of a member. -/
def memberField (part : Member) : Declarator where
  qualifiers := if part.optional then [naming.nullable] else []
  type := cType resolved naming part.type
  annotation := part.annotation
  name := part.name

/-- The body of a structure. -/
def structDeclaration (struct : Struct) : Declaration :=
  .struct (naming.typeName struct.name)
    (chainFields naming struct ++ struct.members.map (memberField resolved naming))
    naming.structureAttribute

/-- The line that says what a structure may extend. -/
def chainComment (struct : Struct) : List Item :=
  if struct.chainRoots.isEmpty then []
  else
    [.line (.comment ("Can be chained in " ++
      String.intercalate ", " (struct.chainRoots.map naming.typeName)))]

/-- The bodies of all structures, led by those that chains start with. -/
def structSection : List Item :=
  (chainHeaders naming).flatMap (fun declaration => paragraph [declaration]) ++
    resolved.structsInOrder.flatMap fun struct =>
      chainComment naming struct ++ paragraph [structDeclaration resolved naming struct]

end ApiHeader.Header
