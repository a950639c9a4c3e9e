/-
# What surrounds the declarations

The license banner, the include guard, the macros that select how functions are
exported, those that a consumer may define, the standard headers and the linkage
block.
-/

import ApiHeader.Header.Declaration
import ApiHeader.Text.Lines

namespace ApiHeader.Header

open ApiHeader.Text

/-- A license as comment lines, and nothing for a blank one. -/
def banner (license : String) : List Item :=
  let text := trim license
  if text.isEmpty then []
  else (lines text).map (fun line => .line (.comment (trimEnd line))) ++ [.blank]

/-- The start of the include guard. -/
def guardOpen (guard : String) : List Item :=
  [.directive (.whenUndefined guard), .directive (.define guard ""), .blank]

/-- The end of the include guard. -/
def guardClose (guard : String) : List Item :=
  [.directive (.endif (" // " ++ guard))]

/-- How functions are exported from a shared library, on the two kinds of hosts and
on the two sides of the interface. -/
def exportSelection (naming : Naming) : List Item :=
  let exported := naming.exportMacro
  let shared := naming.sharedLibraryMacro
  let implementation := naming.implementationMacro
  let at_ := fun indent directive => Item.line (.directive indent directive)
  [at_ 0 (.ifDefined shared),
    at_ 4 (.ifDefined "_WIN32"),
    at_ 8 (.ifDefined implementation),
    at_ 12 (.define exported "__declspec(dllexport)"),
    at_ 8 (.otherwise ""),
    at_ 12 (.define exported "__declspec(dllimport)"),
    at_ 8 (.endif ""),
    at_ 4 (.otherwise "  // defined(_WIN32)"),
    at_ 8 (.ifDefined implementation),
    at_ 12 (.define exported "__attribute__((visibility(\"default\")))"),
    at_ 8 (.otherwise ""),
    at_ 12 (.define exported ""),
    at_ 8 (.endif ""),
    at_ 4 (.endif "  // defined(_WIN32)"),
    at_ 0 (.otherwise ("  // defined(" ++ shared ++ ")")),
    at_ 4 (.define exported ""),
    at_ 0 (.endif ("  // defined(" ++ shared ++ ")")),
    .blank]

/-- Empty definitions of the macros that a consumer has not defined. -/
def featureGuards (naming : Naming) : List Item :=
  naming.featureGuards.flatMap fun guard =>
    [.directive (.ifNotDefined guard), .directive (.define guard ""), .directive (.endif ""),
      .blank]

/-- The standard headers. -/
def includes : List Item :=
  [.directive (.includes "stdint.h"), .directive (.includes "stddef.h"), .blank]

/-- The start of the block with C linkage. -/
def linkageOpen : List Item :=
  [.directive (.whenDefined "__cplusplus"), .line (.code 0 "extern \"C\" \x7b"),
    .directive (.endif ""), .blank]

/-- The end of the block with C linkage. -/
def linkageClose : List Item :=
  [.directive (.whenDefined "__cplusplus"), .line (.code 0 "\x7d // extern \"C\""),
    .directive (.endif ""), .blank]

end ApiHeader.Header
