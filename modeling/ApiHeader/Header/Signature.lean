/-
# Signatures

Function pointers, proc types and exported functions share one way of writing
their parameters. The mode decides which qualifiers the declared parameters get;
everything else is the same in every mode.
-/

import ApiHeader.Header.Declarator

namespace ApiHeader.Header

open ApiHeader.Schema ApiHeader.Text

/-- Which qualifiers the parameters get. -/
structure SignatureMode where
  /-- Mark the parameters that may be null. -/
  nullable : Bool
  /-- Write `struct` before structures. -/
  tagStructs : Bool
  deriving DecidableEq, Repr

namespace SignatureMode

/-- Function pointers come before the bodies of structures, so only tagged
structures are known there. -/
def functionPointer : SignatureMode := ⟨false, true⟩

/-- Types of pointers to exported functions. -/
def proc : SignatureMode := ⟨true, false⟩

/-- Exported functions. -/
def prototype : SignatureMode := ⟨true, false⟩

end SignatureMode

/-- What a function returns and takes. -/
structure Signature where
  returnType : String
  parameters : List Declarator
  deriving DecidableEq, Repr

/-- The parameters as C writes them; their absence is written out. -/
def Signature.parameterList (signature : Signature) : String :=
  if signature.parameters.isEmpty then "void"
  else String.intercalate ", " (signature.parameters.map Declarator.render)

/-- The parameter that carries the owner of a method; a free function has an empty
owner and no such parameter. -/
def ownerParameters (resolved : Resolved) (naming : Naming) (owner : String) : List Declarator :=
  if owner.isEmpty then []
  else [{ type := cType resolved naming (.reference owner), name := lowerFirst owner }]

/-- The qualifiers of a declared parameter. -/
def argumentQualifiers (resolved : Resolved) (naming : Naming) (mode : SignatureMode)
    (argument : Argument) : List String :=
  (if mode.nullable && argument.isNullable then [naming.nullable] else []) ++
    (if mode.tagStructs && resolved.isStruct argument.type then ["struct"] else [])

/-- A declared parameter. -/
def argumentParameter (resolved : Resolved) (naming : Naming) (mode : SignatureMode)
    (argument : Argument) : Declarator where
  qualifiers := argumentQualifiers resolved naming mode argument
  type := cType resolved naming argument.type
  annotation := argument.annotation
  name := argument.name

/-- The parameters through which an asynchronous function answers. -/
def callbackParameters (resolved : Resolved) (naming : Naming) (function : Function) :
    List Declarator :=
  if function.isAsync then
    [{ type := cType resolved naming function.callbackType, name := "callback" },
      { type := "void", annotation := some "*", name := "userdata" }]
  else []

/-- The signature of a function of the given owner. -/
def signatureOf (resolved : Resolved) (naming : Naming) (mode : SignatureMode) (owner : String)
    (function : Function) : Signature where
  returnType := cType resolved naming function.returnType
  parameters :=
    ownerParameters resolved naming owner ++
      function.arguments.map (argumentParameter resolved naming mode) ++
      callbackParameters resolved naming function

end ApiHeader.Header
