/-
# References to types

A type is mentioned by its text alone. A text that starts with a capital names an
entity of the description, every other text is a type of the target language, and
`bool` stands for the description's own truth type.
-/

import ApiHeader.Text.Blank
import ApiHeader.Text.Letter

namespace ApiHeader.Schema

open ApiHeader.Text

/-- A mention of a type. -/
inductive TypeRef
  /-- A type of the target language, written as it stands. -/
  | primitive (text : String)
  /-- An entity of the description. -/
  | reference (name : String)
  deriving DecidableEq, Repr

namespace TypeRef

/-- Classify the text of a type by its first character. -/
def resolve (text : String) : TypeRef :=
  let text := trim text
  if text = "bool" then reference "Bool"
  else
    match text.toList with
    | c :: _ => if isUppercase c then reference text else primitive text
    | [] => primitive text

/-- The type without values. -/
def void : TypeRef := primitive "void"

/-- The bare name, whatever it refers to. -/
def name : TypeRef → String
  | primitive text => text
  | reference name => name

/-- The entity that is referred to. -/
def reference? : TypeRef → Option String
  | primitive _ => none
  | reference name => some name

/-- Whether this is the type without values. -/
def isVoid (type : TypeRef) : Bool :=
  type = void

end TypeRef

end ApiHeader.Schema
