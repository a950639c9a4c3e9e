/-
# Functions of a header

Function pointers first, and then every function twice: as the type of a pointer
to it and as an exported function. Both blocks go through the same groups.
-/

import ApiHeader.Header.Declaration

namespace ApiHeader.Header

open ApiHeader.Schema

/-- The functions of one owner; free functions have an empty owner. -/
structure OwnerGroup where
  owner : String
  functions : List Function

variable (resolved : Resolved) (naming : Naming)

/-- A function pointer. -/
def functionPointerDeclaration (function : Function) : Declaration :=
  .functionPointer (naming.typeName function.name)
    (signatureOf resolved naming .functionPointer "" function) naming.functionAttribute

/-- The function pointers by name. -/
def functionPointerDeclarations : List Declaration :=
  (resolved.schema.functionPointers.mergeSort fun a b => a.name ≤ b.name).map
    (functionPointerDeclaration resolved naming)

/-- Free functions by name, then the objects by name, then the structures in their
order; owners without functions are left out. -/
def ownerGroups : List OwnerGroup :=
  let free := resolved.schema.freeFunctions.mergeSort fun a b => a.name ≤ b.name
  let objects := resolved.schema.objects.mergeSort fun a b => a.name ≤ b.name
  let groups : List OwnerGroup :=
    [⟨"", free⟩] ++
      objects.map (fun object => ⟨object.name, object.allMethods.toList⟩) ++
      resolved.structsInOrder.map fun struct => ⟨struct.name, struct.methods.toList⟩
  groups.filter fun group => !group.functions.isEmpty

/-- The type of a pointer to an exported function. -/
def procDeclaration (owner : String) (function : Function) : Declaration :=
  .functionPointer (naming.procName owner function.name)
    (signatureOf resolved naming .proc owner function) naming.functionAttribute

/-- An exported function. -/
def prototypeDeclaration (owner : String) (function : Function) : Declaration :=
  .prototype naming.exportMacro (naming.functionName owner function.name)
    (signatureOf resolved naming .prototype owner function) naming.functionAttribute

/-- A block of groups that a macro can switch off. Groups with an owner have a
heading. -/
def ownerBlock (guard heading : String) (declare : String → Function → Declaration)
    (groups : List OwnerGroup) : List Item :=
  [.directive (.ifNotDefined guard), .blank] ++
    groups.flatMap (fun group =>
      (if group.owner.isEmpty then []
      else [.line (.comment (heading ++ " of " ++ group.owner))]) ++
        paragraph (group.functions.map (declare group.owner))) ++
    [.directive (.endif ("  // !defined(" ++ guard ++ ")")), .blank]

/-- The types of pointers to all exported functions. -/
def procSection : List Item :=
  ownerBlock naming.skipProcs "Procs" (procDeclaration resolved naming)
    (ownerGroups resolved)

/-- All exported functions. -/
def prototypeSection : List Item :=
  ownerBlock naming.skipDeclarations "Methods" (prototypeDeclaration resolved naming)
    (ownerGroups resolved)

end ApiHeader.Header
