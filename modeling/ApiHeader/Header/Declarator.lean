/-
# Types and declarators

How a type is written in C, and how a parameter or a field is declared: qualifiers,
type, annotation and name, parted by single spaces.
-/

import ApiHeader.Naming
import ApiHeader.Schema.Resolved

namespace ApiHeader.Header

open ApiHeader.Schema ApiHeader.Text

/-- A type as C writes it. A bitmask stands for the scalar that holds its values;
an unknown name is written as any other. -/
def cType (resolved : Resolved) (naming : Naming) (type : TypeRef) : String :=
  match type with
  | .primitive text => text
  | .reference name =>
    if resolved.isBitmask type then naming.flagsName name else naming.typeName name

/-- The declaration of a parameter or a field. -/
structure Declarator where
  qualifiers : List String := []
  type : String
  /-- A pointer or array qualifier, which may be blank. -/
  annotation : Option String := none
  name : String
  deriving DecidableEq, Repr

/-- The annotation as one part, if there is anything to it. -/
def Declarator.annotationParts (declarator : Declarator) : List String :=
  match declarator.annotation with
  | some text => if (trim text).isEmpty then [] else [trim text]
  | none => []

/-- The declaration without the mark that ends it. -/
def Declarator.render (declarator : Declarator) : String :=
  String.intercalate " "
    (declarator.qualifiers ++ [declarator.type] ++ declarator.annotationParts ++ [declarator.name])

end ApiHeader.Header
