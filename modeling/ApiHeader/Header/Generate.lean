/-
# From a document to a header

The whole way from the text of a description to the text of its header, with the
errors of each stage told apart.
-/

import ApiHeader.Description.Load
import ApiHeader.Header.Layout

namespace ApiHeader

/-- Why a file cannot be read as text. -/
inductive FileFault
  | missing
  /-- The bytes are no UTF-8. -/
  | notText
  deriving DecidableEq, Repr

/-- The wording of a file's fault. -/
def FileFault.message : FileFault → String
  | missing => "No such file or directory (os error 2)"
  | notText => "stream did not contain valid UTF-8"

/-- Why no header is generated. -/
inductive GenerateError
  | load (error : LoadError)
  | schema (error : SchemaError)
  | file (fault : FileFault)
  deriving DecidableEq, Repr

/-- The wording of an error, led by the stage it comes from. -/
def GenerateError.message : GenerateError → String
  | load error => "schema parse error: " ++ error.message
  | schema error => "schema error: " ++ error.message
  | file fault => "IO error: " ++ fault.message

namespace Header

/-- The header of the schema that a document describes. -/
def ofDocument (options : Options) (document : String) : Except GenerateError String := do
  let schema ← (Schema.load document).mapError .load
  let resolved ← (Resolved.ofSchema schema).mapError .schema
  return generate options resolved

/-- The text of a file, given its bytes if there is such a file. -/
def fileText (content : Option ByteArray) : Except FileFault String :=
  match content with
  | none => .error .missing
  | some bytes =>
    match String.fromUTF8? bytes with
    | some text => .ok text
    | none => .error .notText

/-- The header of the document in a file. -/
def ofFile (options : Options) (content : Option ByteArray) : Except GenerateError String := do
  let document ← (fileText content).mapError .file
  ofDocument options document

end Header

end ApiHeader
