/-
# Errors of reading a description

A description is refused for its markup, for an attribute, or for its structure.
The first error in the order of the document is the one reported.
-/

import ApiHeader.Markup.Attribute
import ApiHeader.Markup.Fault
import ApiHeader.Markup.Reference

namespace ApiHeader

open ApiHeader.Markup

/-- Why a description cannot be read. -/
inductive LoadError
  | markup (fault : Fault)
  /-- A reference in an attribute value. -/
  | reference (fault : ReferenceFault)
  /-- A reference by code point in the text of an element. -/
  | character (fault : CharacterFault)
  | malformedAttribute (fault : AttributeFault)
  | missingAttribute (element key : String)
  | invalidAttribute (element key value : String)
  /-- No element is opened. -/
  | noContent
  /-- The document ends inside an element. -/
  | unexpectedEnd
  /-- The naming prefix is absent or empty. -/
  | missingPrefix
  /-- An unknown entity in the text of an element. -/
  | unknownEntity (name : String)
  deriving DecidableEq, Repr

/-- The wording of an error. -/
def LoadError.message : LoadError → String
  | markup fault => "XML parsing error: " ++ fault.message
  | reference fault => "XML parsing error: " ++ fault.message
  | character fault => "XML parsing error: " ++ fault.message
  | malformedAttribute fault => "invalid attribute: " ++ fault.message
  | missingAttribute element key =>
    "missing required attribute '" ++ key ++ "' on element '" ++ element ++ "'"
  | invalidAttribute element key value =>
    "invalid value '" ++ value ++ "' for attribute '" ++ key ++ "' on element '" ++
      element ++ "'"
  | noContent => "invalid schema structure: document has no content"
  | unexpectedEnd => "invalid schema structure: unexpected end of document"
  | missingPrefix => "invalid schema structure: missing metadata/prefix/c"
  | unknownEntity name => "invalid schema structure: unknown entity reference '&" ++ name ++ ";'"

end ApiHeader
