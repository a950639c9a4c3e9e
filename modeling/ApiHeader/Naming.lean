/-
# Public names

Every name that a header introduces is derived from the description's prefix, as
written for types, in small letters for functions and in capitals for macros.
-/

import ApiHeader.Text.WordCase

namespace ApiHeader

open ApiHeader.Text

/-- The three spellings of a prefix. -/
structure Naming where
  typePrefix : String
  functionPrefix : String
  macroPrefix : String
  deriving DecidableEq, Repr

namespace Naming

/-- The spellings of the given prefix. -/
def ofPrefix (namePrefix : String) : Naming where
  typePrefix := namePrefix
  functionPrefix := toLower namePrefix
  macroPrefix := toUpper namePrefix

variable (naming : Naming)

/-- A type. -/
def typeName (name : String) : String :=
  naming.typePrefix ++ name

/-- The scalar that holds the values of a bitmask. -/
def flagsName (name : String) : String :=
  naming.typePrefix ++ name ++ "Flags"

/-- A value of an enumeration or a bitmask. -/
def enumerator (owner name : String) : String :=
  naming.typePrefix ++ owner ++ "_" ++ name

/-- The incomplete structure behind the handle of an object. -/
def handleTag (name : String) : String :=
  naming.typePrefix ++ name ++ "Impl"

/-- An exported function. -/
def functionName (owner name : String) : String :=
  naming.functionPrefix ++ owner ++ name

/-- The type of a pointer to an exported function. -/
def procName (owner name : String) : String :=
  naming.typePrefix ++ "Proc" ++ owner ++ name

/-- A preprocessor name. -/
def macroName (suffix : String) : String :=
  naming.macroPrefix ++ "_" ++ suffix

/-- A constant. -/
def constantName (name : String) : String :=
  naming.macroName (screamingSnake name)

/-- The include guard that is used unless another is asked for. -/
def includeGuard : String :=
  naming.macroName "H_"

/-- The macro that marks an exported function. -/
def exportMacro : String :=
  naming.macroName "EXPORT"

/-- Defined by who builds or uses a shared library. -/
def sharedLibraryMacro : String :=
  naming.macroName "SHARED_LIBRARY"

/-- Defined by who builds the library itself. -/
def implementationMacro : String :=
  naming.macroName "IMPLEMENTATION"

/-- The macro in which compilers may put marks on handles. -/
def objectAttribute : String :=
  naming.macroName "OBJECT_ATTRIBUTE"

/-- The macro in which compilers may put marks on enumerations. -/
def enumAttribute : String :=
  naming.macroName "ENUM_ATTRIBUTE"

/-- The macro in which compilers may put marks on structures. -/
def structureAttribute : String :=
  naming.macroName "STRUCTURE_ATTRIBUTE"

/-- The macro in which compilers may put marks on functions. -/
def functionAttribute : String :=
  naming.macroName "FUNCTION_ATTRIBUTE"

/-- What marks a parameter or a member that may be null. -/
def nullable : String :=
  naming.macroName "NULLABLE"

/-- Keeps the types of pointers to exported functions out when it is defined. -/
def skipProcs : String :=
  naming.macroName "SKIP_PROCS"

/-- Keeps the prototypes of exported functions out when it is defined. -/
def skipDeclarations : String :=
  naming.macroName "SKIP_DECLARATIONS"

/-- The macros that a consumer may define before including the header. -/
def featureGuards : List String :=
  [naming.objectAttribute, naming.enumAttribute, naming.structureAttribute,
    naming.functionAttribute, naming.nullable]

/-- The structure that starts a chain of extensions. -/
def chainedStruct : String :=
  naming.typeName "ChainedStruct"

/-- The structure that starts a chain of extensions to be filled in. -/
def chainedStructOut : String :=
  naming.typeName "ChainedStructOut"

end Naming

end ApiHeader
