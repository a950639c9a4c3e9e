/-
# Definitions of types

The four kinds of types that a description can define. Values of enumerations and
bitmasks are kept as written; reading one as a number is a question asked later.
-/

import ApiHeader.Schema.Function
import ApiHeader.Text.CaseMap
import ApiHeader.Text.Numeral

namespace ApiHeader.Schema

open ApiHeader.Text

/-- A named value of an enumeration or a bitmask. -/
structure Entry where
  name : String
  value : String
  deriving DecidableEq, Repr

/-- The number that a literal stands for, if it is a plain decimal or hexadecimal
numeral below two to the power of 64. -/
def literalNumber? (literal : String) : Option Nat :=
  match trimChars literal.toList with
  | '0' :: 'x' :: digits => readSigned? 16 UInt64.size digits
  | '0' :: 'X' :: digits => readSigned? 16 UInt64.size digits
  | digits => readSigned? 10 UInt64.size digits

/-- The number that an entry stands for. -/
def Entry.number? (entry : Entry) : Option Nat :=
  literalNumber? entry.value

/-- A scalar with a name of its own. -/
structure ValueType where
  name : String
  underlying : TypeRef
  deriving DecidableEq, Repr

/-- Named values in the order of the description. -/
structure Enumeration where
  name : String
  entries : List Entry := []
  deriving DecidableEq, Repr

/-- The first entry of a name. -/
def Enumeration.entry? (enumeration : Enumeration) (name : String) : Option Entry :=
  enumeration.entries.find? fun entry => entry.name == name

/-- Which way a structure hands on extensions, or is handed on as one. -/
inductive Direction
  | none
  | input
  | output
  deriving DecidableEq, Repr, Inhabited

/-- How a structure says that it carries extensions. -/
def Direction.ofExtensible? (text : String) : Option Direction :=
  match toLower text with
  | "" => some none
  | "none" => some none
  | "false" => some none
  | "in" => some input
  | "true" => some input
  | "out" => some output
  | _ => Option.none

/-- How a structure says that it can be an extension. -/
def Direction.ofChained? (text : String) : Option Direction :=
  match toLower text with
  | "" => some none
  | "none" => some none
  | "in" => some input
  | "out" => some output
  | _ => Option.none

/-- A field of a structure. -/
structure Member where
  name : String
  type : TypeRef
  /-- A pointer or array qualifier. -/
  annotation : Option String := none
  /-- The member that holds the number of elements. -/
  length : Option String := none
  default : Option String := none
  optional : Bool := false
  deriving DecidableEq, Repr

/-- A structure. -/
structure Struct where
  name : String
  /-- The members in the order of their layout. -/
  members : List Member := []
  methods : Methods := .empty
  extensible : Direction := .none
  chained : Direction := .none
  /-- The structures that this one may extend. -/
  chainRoots : List String := []
  deriving DecidableEq

/-- The entities that members refer to, in order. -/
def Struct.referencedTypes (struct : Struct) : List String :=
  struct.members.filterMap fun part => part.type.reference?

/-- A definition of a type. -/
inductive TypeDef
  | value (definition : ValueType)
  | enumeration (definition : Enumeration)
  | bitmask (definition : Enumeration)
  | struct (definition : Struct)
  deriving DecidableEq

namespace TypeDef

/-- The name that is defined. -/
def name : TypeDef → String
  | value definition => definition.name
  | enumeration definition => definition.name
  | bitmask definition => definition.name
  | struct definition => definition.name

/-- The definition, if it is one of a scalar. -/
def value? : TypeDef → Option ValueType
  | value definition => some definition
  | _ => none

/-- The definition, if it is one of an enumeration. -/
def enumeration? : TypeDef → Option Enumeration
  | enumeration definition => some definition
  | _ => none

/-- The definition, if it is one of a bitmask. -/
def bitmask? : TypeDef → Option Enumeration
  | bitmask definition => some definition
  | _ => none

/-- The definition, if it is one of a structure. -/
def struct? : TypeDef → Option Struct
  | struct definition => some definition
  | _ => none

end TypeDef

end ApiHeader.Schema
