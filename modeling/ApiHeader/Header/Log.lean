/-
# Log of a generation

What is worth telling while a header is generated. The log is computed from the
same stages as the header, so a stage that fails ends it.
-/

import ApiHeader.Header.Generate
import ApiHeader.Text.Quoted

namespace ApiHeader.Header

open ApiHeader.Text

/-- How much a log entry matters. -/
inductive LogLevel
  | trace
  | debug
  | info
  deriving DecidableEq, Repr

/-- Something that happened on the way to a header. Sizes count bytes of UTF-8. -/
inductive LogEntry
  | loaded (schema : Schema)
  | ordered (structOrder : List String)
  | emitted (kind : SectionKind) (bytes : Nat)
  | generated (namePrefix : String) (bytes : Nat)

/-- A value that a log entry reports. -/
inductive LogValue
  | text (value : String)
  | number (value : Nat)
  deriving DecidableEq, Repr

namespace LogEntry

/-- How much an entry matters. -/
def level : LogEntry → LogLevel
  | loaded _ => .debug
  | ordered _ => .debug
  | emitted .. => .trace
  | generated .. => .info

/-- What an entry says. -/
def message : LogEntry → String
  | loaded _ => "loaded API description"
  | ordered _ => "computed structure declaration order"
  | emitted .. => "emitting section"
  | generated .. => "generated header"

/-- The values that an entry reports, by name. -/
def values : LogEntry → List (String × LogValue)
  | loaded schema =>
    [("prefix", .text schema.namePrefix),
      ("constants", .number schema.constants.length),
      ("types", .number schema.types.length),
      ("free_functions", .number schema.freeFunctions.length),
      ("function_pointers", .number schema.functionPointers.length),
      ("objects", .number schema.objects.length)]
  | ordered structOrder => [("order", .text (quotedList structOrder))]
  | emitted kind bytes => [("section", .text kind.label), ("bytes", .number bytes)]
  | generated namePrefix bytes => [("prefix", .text namePrefix), ("bytes", .number bytes)]

end LogEntry

/-- The entries of writing a header. -/
def generationLog (options : Options) (resolved : Resolved) : List LogEntry :=
  (sections options resolved).map (fun part =>
    .emitted part.1 (renderItems part.2).utf8ByteSize) ++
  [.generated resolved.schema.namePrefix (generate options resolved).utf8ByteSize]

/-- The entries of generating the header of a document. -/
def documentLog (options : Options) (document : String) : List LogEntry :=
  match Schema.load document with
  | .error _ => []
  | .ok schema =>
    match Resolved.ofSchema schema with
    | .error _ => [.loaded schema]
    | .ok resolved =>
      [.loaded schema, .ordered resolved.structOrder] ++ generationLog options resolved

end ApiHeader.Header
