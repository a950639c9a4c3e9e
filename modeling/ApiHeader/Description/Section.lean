/-
# Sections of a description

Visitors and readers for the elements that have children of their own. A visitor
says which children are known and how each of them is read; the reader goes through
all children and passes over the others with all they hold.
-/

import ApiHeader.Description.Content
import ApiHeader.Description.Element
import ApiHeader.Text.Blank

namespace ApiHeader.Description

open ApiHeader.Markup ApiHeader.Schema ApiHeader.Text

/-- Take an element for what its tag says and pass over its content. -/
def leaf {α : Type} (outcome : Except LoadError α) (selfClosing : Bool) : ContentReader α :=
  fun events => do
    let value ← outcome
    (skipContent selfClosing).map (fun _ => value) events

/-- The children of an enumeration or a bitmask. -/
def visitEntry : Visitor (List Entry) := fun entries tag =>
  if tag.name = "entry" then some (leaf ((entryOf tag).map fun entry => entries ++ [entry]))
  else none

/-- The entries of an enumeration or a bitmask. -/
def readEntries : Bool → ContentReader (List Entry) :=
  children visitEntry []

/-- The children of a function. -/
def visitArgument : Visitor Function := fun function tag =>
  if tag.name = "arg" then
    some (leaf ((argumentOf tag).map fun argument =>
      { function with arguments := function.arguments ++ [argument] }))
  else none

/-- A function with its parameters. -/
def readFunction (tag : Tag) (selfClosing : Bool) : ContentReader Function :=
  fun events => do
    let function ← functionOf tag
    children visitArgument function selfClosing events

/-- The children of a list of functions. -/
def visitFunction : Visitor (List Function) := fun functions tag =>
  if tag.name = "function" then
    some fun selfClosing =>
      (readFunction tag selfClosing).map fun function => functions ++ [function]
  else none

/-- A list of functions; methods and the functions outside types are all read
alike. -/
def readFunctions : Bool → ContentReader (List Function) :=
  children visitFunction []

/-- The children of an element that says how a structure is chained. -/
def visitRoot : Visitor (List String) := fun roots tag =>
  if tag.name = "root" then some (leaf ((nameOf "root" tag).map fun name => roots ++ [name]))
  else none

/-- The structures that a structure may extend, after those known already. -/
def readRoots (roots : List String) : Bool → ContentReader (List String) :=
  children visitRoot roots

/-- How a structure is chained. -/
def readChained (struct : Struct) (tag : Tag) (selfClosing : Bool) : ContentReader Struct :=
  fun events => do
    let direction ← chainedOf tag
    let chained := direction.getD struct.chained
    (readRoots struct.chainRoots selfClosing).map
      (fun chainRoots => { struct with chained, chainRoots }) events

/-- The children of a structure. -/
def visitStructPart : Visitor Struct := fun struct tag =>
  match tag.name with
  | "member" =>
    some (leaf ((memberOf tag).map fun part =>
      { struct with members := struct.members ++ [part] }))
  | "chained" => some (readChained struct tag)
  | "methods" =>
    some fun selfClosing => (readFunctions selfClosing).map fun functions =>
      { struct with methods := struct.methods.insertAll functions }
  | _ => none

/-- A structure with its members, methods and chains. -/
def readStruct (tag : Tag) (selfClosing : Bool) : ContentReader Struct :=
  fun events => do
    let struct ← structOf tag
    children visitStructPart struct selfClosing events

/-- An enumeration or a bitmask, by the name of its element. -/
def readEnumeration (element : String) (tag : Tag) (selfClosing : Bool) :
    ContentReader Enumeration :=
  fun events => do
    let name ← nameOf element tag
    (readEntries selfClosing).map (fun entries => { name, entries }) events

/-- The children of the section of types. -/
def visitType : Visitor Schema := fun schema tag =>
  match tag.name with
  | "value" => some (leaf ((valueTypeOf tag).map fun type => schema.addType (.value type)))
  | "enum" =>
    some fun selfClosing => (readEnumeration "enum" tag selfClosing).map fun type =>
      schema.addType (.enumeration type)
  | "bitmask" =>
    some fun selfClosing => (readEnumeration "bitmask" tag selfClosing).map fun type =>
      schema.addType (.bitmask type)
  | "struct" =>
    some fun selfClosing => (readStruct tag selfClosing).map fun type =>
      schema.addType (.struct type)
  | _ => none

/-- Definitions of types, after those of the schema. -/
def readTypes (schema : Schema) : Bool → ContentReader Schema :=
  children visitType schema

/-- The children of the section of constants. -/
def visitConstant : Visitor (List Constant) := fun constants tag =>
  if tag.name = "define" then
    some (leaf ((constantOf tag).map fun constant => constants ++ [constant]))
  else none

/-- Constants, after those known already. -/
def readConstants (constants : List Constant) : Bool → ContentReader (List Constant) :=
  children visitConstant constants

/-- The children of an object. -/
def visitMethods : Visitor Object := fun object tag =>
  if tag.name = "methods" then
    some fun selfClosing => (readFunctions selfClosing).map fun functions =>
      { object with methods := object.methods.insertAll functions }
  else none

/-- An object with its methods. -/
def readObject (tag : Tag) (selfClosing : Bool) : ContentReader Object :=
  fun events => do
    let object ← objectOf tag
    children visitMethods object selfClosing events

/-- The children of the section of objects. -/
def visitObject : Visitor (List Object) := fun objects tag =>
  if tag.name = "object" then
    some fun selfClosing => (readObject tag selfClosing).map fun object => objects ++ [object]
  else none

/-- Objects, after those known already. -/
def readObjects (objects : List Object) : Bool → ContentReader (List Object) :=
  children visitObject objects

/-- The text of an element without the blanks around it. -/
def trimmedText (selfClosing : Bool) : ContentReader String :=
  (textContent selfClosing).map trim

/-- The children of the prefix in metadata. -/
def visitPrefixText : Visitor (Option String) := fun _ tag =>
  if tag.name = "c" then some fun selfClosing => (trimmedText selfClosing).map some
  else none

/-- The naming prefix for C; the last one given counts. -/
def readPrefix (found : Option String) : Bool → ContentReader (Option String) :=
  children visitPrefixText found

/-- The children of metadata. -/
def visitPrefix : Visitor (Option String) := fun found tag =>
  if tag.name = "prefix" then some (readPrefix found) else none

/-- The naming prefix that metadata give. -/
def readMetadata (found : Option String) : Bool → ContentReader (Option String) :=
  children visitPrefix found

end ApiHeader.Description
