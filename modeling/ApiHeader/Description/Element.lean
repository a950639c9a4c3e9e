/-
# Elements of a description

What the attributes of each kind of element say. These readings look at one tag
only; the children of an element are read elsewhere.
-/

import ApiHeader.Description.Fields
import ApiHeader.Schema.Basic

namespace ApiHeader.Description

open ApiHeader.Markup ApiHeader.Schema

/-- For elements that allow every value of every key. -/
def anyValue : String → String → Bool :=
  fun _ _ => true

/-- For elements in which the values of some keys have to be truth values. -/
def flagsAmong (keys : List String) : String → String → Bool :=
  fun key value => !keys.contains key || isFlag value

/-- A constant. -/
def constantOf (tag : Tag) : Except LoadError Constant := do
  let fields ← fieldsOf "define" anyValue tag
  let name ← fields.required "define" "name"
  let type ← fields.required "define" "type"
  let value ← fields.required "define" "value"
  return { name, type := .resolve type, value }

/-- A scalar type. -/
def valueTypeOf (tag : Tag) : Except LoadError ValueType := do
  let fields ← fieldsOf "value" anyValue tag
  let name ← fields.required "value" "name"
  let type ← fields.required "value" "type"
  return { name, underlying := .resolve type }

/-- An entry of an enumeration or a bitmask. -/
def entryOf (tag : Tag) : Except LoadError Entry := do
  let fields ← fieldsOf "entry" anyValue tag
  let name ← fields.required "entry" "name"
  let value ← fields.required "entry" "value"
  return { name, value }

/-- A member of a structure. -/
def memberOf (tag : Tag) : Except LoadError Member := do
  let fields ← fieldsOf "member" (flagsAmong ["optional"]) tag
  let name ← fields.required "member" "name"
  let type ← fields.required "member" "type"
  return {
    name
    type := .resolve type
    annotation := fields.get? "annotation"
    length := fields.get? "length"
    default := fields.get? "default"
    optional := fields.flag "optional" }

/-- A parameter of a function. -/
def argumentOf (tag : Tag) : Except LoadError Argument := do
  let fields ← fieldsOf "arg" (flagsAmong ["optional", "suppress_nullable"]) tag
  let name ← fields.required "arg" "name"
  let type ← fields.required "arg" "type"
  return {
    name
    type := .resolve type
    annotation := fields.get? "annotation"
    length := fields.get? "length"
    default := fields.get? "default"
    optional := fields.flag "optional"
    suppressNullable := fields.flag "suppress_nullable" }

/-- A function without its parameters. -/
def functionOf (tag : Tag) : Except LoadError Function := do
  let fields ← fieldsOf "function" (flagsAmong ["async"]) tag
  let name ← fields.required "function" "name"
  return {
    name
    returns := ((fields.get? "returns").map TypeRef.resolve).getD .void
    isAsync := fields.flag "async"
    callback := (fields.get? "callback").map TypeRef.resolve }

/-- An object without its methods. -/
def objectOf (tag : Tag) : Except LoadError Object := do
  let fields ← fieldsOf "object" (flagsAmong ["refcounted"]) tag
  let name ← fields.required "object" "name"
  return { name, refcounted := fields.flag "refcounted" }

/-- A structure without its members. -/
def structOf (tag : Tag) : Except LoadError Struct := do
  let allowed := fun key value => key != "extensible" || (Direction.ofExtensible? value).isSome
  let fields ← fieldsOf "struct" allowed tag
  let name ← fields.required "struct" "name"
  return {
    name
    extensible := ((fields.get? "extensible").bind Direction.ofExtensible?).getD .none }

/-- The way in which a structure is chained, if its element says so. -/
def chainedOf (tag : Tag) : Except LoadError (Option Direction) := do
  let allowed := fun key value => key != "dir" || (Direction.ofChained? value).isSome
  let fields ← fieldsOf "chained" allowed tag
  return (fields.get? "dir").bind Direction.ofChained?

/-- The name of an element of which nothing else is wanted. -/
def nameOf (element : String) (tag : Tag) : Except LoadError String :=
  takeName element tag.attributes

end ApiHeader.Description
