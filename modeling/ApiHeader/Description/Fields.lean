/-
# Fields of an element

The attributes of an element, unescaped and checked. They are taken one after the
other, so a value that the element does not allow is reported before a fault
further on in the tag. Whether a required field is there is asked after all of
them were taken.
-/

import ApiHeader.Description.Error

namespace ApiHeader.Description

open ApiHeader.Markup

/-- The attributes of an element with their values resolved. -/
structure Fields where
  entries : List (String × String)

/-- The value of a field. -/
def Fields.get? (fields : Fields) (key : String) : Option String :=
  fields.entries.lookup key

/-- The value of a field that the element must have. -/
def Fields.required (fields : Fields) (element key : String) : Except LoadError String :=
  match fields.get? key with
  | some value => .ok value
  | none => .error (.missingAttribute element key)

/-- Whether a text is one of the two truth values. -/
def isFlag (text : String) : Bool :=
  text == "true" || text == "false"

/-- Whether a field is there and true. -/
def Fields.flag (fields : Fields) (key : String) : Bool :=
  fields.get? key == some "true"

/-- Take attributes one after the other. `allowed` says which values a key of the
element may have. -/
def takeFields (element : String) (allowed : String → String → Bool) :
    List (Except AttributeFault Attribute) → Except LoadError (List (String × String))
  | [] => .ok []
  | .error fault :: _ => .error (.malformedAttribute fault)
  | .ok item :: rest => do
    let value ← (unescape item.value).mapError .reference
    if allowed item.key value then
      let others ← takeFields element allowed rest
      return (item.key, value) :: others
    else .error (.invalidAttribute element item.key value)

/-- The fields of an element. -/
def fieldsOf (element : String) (allowed : String → String → Bool) (tag : Tag) :
    Except LoadError Fields :=
  (takeFields element allowed tag.attributes).map Fields.mk

/-- The name among attributes of which nothing else is wanted. Attributes before
it are only passed over, and those after it are not looked at. -/
def takeName (element : String) :
    List (Except AttributeFault Attribute) → Except LoadError String
  | [] => .error (.missingAttribute element "name")
  | .error fault :: _ => .error (.malformedAttribute fault)
  | .ok item :: rest =>
    if item.key = "name" then (unescape item.value).mapError .reference
    else takeName element rest

end ApiHeader.Description
