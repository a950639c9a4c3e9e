/-
# Loading a description

The whole of a document: what stands before the root element is ignored, its name
is not looked at, and nothing after its end tag is read. A later list of free
functions or of function pointers takes the place of an earlier one, while every
other section adds to what came before it.
-/

import ApiHeader.Description.Section

namespace ApiHeader.Description

open ApiHeader.Markup

/-- What has been read of a description. -/
structure Draft where
  schema : Schema := {}
  /-- The naming prefix, if there was one. -/
  namePrefix : Option String := none

/-- The children of the root element. -/
def visitSection : Visitor Draft := fun draft tag =>
  let schema := draft.schema
  match tag.name with
  | "license" =>
    some fun selfClosing => (trimmedText selfClosing).map fun license =>
      { draft with schema := { schema with license } }
  | "metadata" =>
    some fun selfClosing => (readMetadata draft.namePrefix selfClosing).map fun namePrefix =>
      { draft with namePrefix }
  | "defines" =>
    some fun selfClosing => (readConstants schema.constants selfClosing).map fun constants =>
      { draft with schema := { schema with constants } }
  | "types" =>
    some fun selfClosing => (readTypes schema selfClosing).map fun schema =>
      { draft with schema }
  | "free_functions" =>
    some fun selfClosing => (readFunctions selfClosing).map fun freeFunctions =>
      { draft with schema := { schema with freeFunctions } }
  | "function_pointers" =>
    some fun selfClosing => (readFunctions selfClosing).map fun functionPointers =>
      { draft with schema := { schema with functionPointers } }
  | "objects" =>
    some fun selfClosing => (readObjects schema.objects selfClosing).map fun objects =>
      { draft with schema := { schema with objects } }
  | _ => none

/-- What the root element describes. -/
def readRoot : ContentReader Draft :=
  children visitSection {} false

/-- The schema of a draft that is complete. -/
def Draft.finish (draft : Draft) : Except LoadError Schema :=
  match draft.namePrefix with
  | some namePrefix =>
    if namePrefix.isEmpty then .error .missingPrefix else .ok { draft.schema with namePrefix }
  | none => .error .missingPrefix

/-- The schema that the events of a document describe. -/
def loadEvents : List Event → Except LoadError Schema
  | [] => .error .noContent
  | .empty _ :: _ => .error .noContent
  | .fault cause :: _ => .error (.markup cause)
  | .start _ :: following => do
    let taken ← readRoot following
    taken.value.finish
  | .close _ :: following | .text _ :: following | .cdata _ :: following
  | .reference _ :: following | .aside :: following => loadEvents following

end ApiHeader.Description

/-- The schema that a document describes. -/
def ApiHeader.Schema.load (document : String) : Except ApiHeader.LoadError ApiHeader.Schema :=
  ApiHeader.Description.loadEvents (ApiHeader.Markup.events document)
