/-
# Layout of a header

The sections of a header in their fixed order, and the text that they make up.
-/

import ApiHeader.Header.Functions
import ApiHeader.Header.Preamble
import ApiHeader.Header.Types

namespace ApiHeader.Header

/-- What can be chosen about a header. -/
structure Options where
  /-- An include guard to take the place of the one derived from the prefix. -/
  includeGuard : Option String := none
  /-- Whether functions are wrapped in a block with C linkage. -/
  linkage : Bool := true
  deriving DecidableEq, Repr

/-- The sections of a header. -/
inductive SectionKind
  | banner
  | guardOpen
  | exportSelection
  | featureGuards
  | includes
  | constants
  | valueTypes
  | handles
  | forwardDeclarations
  | enumerations
  | bitmasks
  | functionPointers
  | structures
  | linkageOpen
  | procs
  | prototypes
  | linkageClose
  | guardClose
  deriving DecidableEq, Repr

/-- What a log calls the section. -/
def SectionKind.label : SectionKind → String
  | banner => "license"
  | guardOpen => "guard"
  | exportSelection => "export"
  | featureGuards => "feature guards"
  | includes => "includes"
  | constants => "constants"
  | valueTypes => "value types"
  | handles => "objects"
  | forwardDeclarations => "forward declarations"
  | enumerations => "enums"
  | bitmasks => "bitmasks"
  | functionPointers => "function pointers"
  | structures => "structures"
  | linkageOpen => "extern open"
  | procs => "procs"
  | prototypes => "declarations"
  | linkageClose => "extern close"
  | guardClose => "guard close"

/-- The pieces of a section, given the include guard. -/
def SectionKind.items (resolved : Resolved) (naming : Naming) (guard : String) :
    SectionKind → List Item
  | banner => Header.banner resolved.schema.license
  | guardOpen => Header.guardOpen guard
  | exportSelection => Header.exportSelection naming
  | featureGuards => Header.featureGuards naming
  | includes => Header.includes
  | constants => paragraph (constantDeclarations resolved naming)
  | valueTypes => paragraph (valueDeclarations resolved naming)
  | handles => paragraph (handleDeclarations resolved naming)
  | forwardDeclarations => forwardSection resolved naming
  | enumerations => enumerationSection resolved naming
  | bitmasks => bitmaskSection resolved naming
  | functionPointers => paragraph (functionPointerDeclarations resolved naming)
  | structures => structSection resolved naming
  | linkageOpen => Header.linkageOpen
  | procs => procSection resolved naming
  | prototypes => prototypeSection resolved naming
  | linkageClose => Header.linkageClose
  | guardClose => Header.guardClose guard

/-- The sections of a header in order. -/
def Options.layout (options : Options) : List SectionKind :=
  [.banner, .guardOpen, .exportSelection, .featureGuards, .includes, .constants, .valueTypes,
    .handles, .forwardDeclarations, .enumerations, .bitmasks, .functionPointers, .structures] ++
  (if options.linkage then [.linkageOpen] else []) ++
  [.procs, .prototypes] ++
  (if options.linkage then [.linkageClose] else []) ++
  [.guardClose]

/-- The names that a resolved schema gives. -/
def namingOf (resolved : Resolved) : Naming :=
  .ofPrefix resolved.schema.namePrefix

/-- The include guard of a header. -/
def guardOf (options : Options) (resolved : Resolved) : String :=
  options.includeGuard.getD (namingOf resolved).includeGuard

/-- The sections of a header with their pieces. -/
def sections (options : Options) (resolved : Resolved) : List (SectionKind × List Item) :=
  options.layout.map fun kind =>
    (kind, kind.items resolved (namingOf resolved) (guardOf options resolved))

/-- The text of a header. -/
def generate (options : Options) (resolved : Resolved) : String :=
  renderItems ((sections options resolved).flatMap Prod.snd)

end ApiHeader.Header
