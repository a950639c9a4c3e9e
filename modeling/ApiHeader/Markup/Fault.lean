/-
# Faults of a document's markup

A fault ends the reading of a document: what follows it is never looked at. Each
constructor is one cause, and the wording is kept in `message` alone.
-/

namespace ApiHeader.Markup

/-- Why the markup of a document cannot be read any further. -/
inductive Fault
  /-- A tag runs to the end of the document. -/
  | tagNotClosed
  /-- A quote opened inside a tag runs to the end of the document. -/
  | quoteNotClosed (quote : Char)
  /-- Neither a comment, nor literal text, nor a document type follows `<!`. -/
  | unknownMarkup
  | cdataNotClosed
  | commentNotClosed
  | doctypeNotClosed
  /-- A document type that names nothing. -/
  | doctypeUnnamed
  | instructionNotClosed
  | declarationNotClosed
  | referenceNotClosed
  /-- An end tag whose name is not that of the innermost open element. -/
  | mismatchedEnd (expected found : String)
  /-- An end tag where no element is open. -/
  | unmatchedEnd (found : String)
  deriving DecidableEq, Repr

/-- The report of a search that ran to the end of the document. -/
def Fault.notClosed (construct mark : String) : String :=
  construct ++ " not closed: `" ++ mark ++ "` not found before end of input"

/-- The wording of a fault. -/
def Fault.message : Fault → String
  | tagNotClosed => "syntax error: " ++ notClosed "tag" ">"
  | quoteNotClosed quote => "syntax error: " ++ notClosed "attribute value" (String.singleton quote)
  | unknownMarkup => "syntax error: unknown or missed symbol in markup"
  | cdataNotClosed => "syntax error: " ++ notClosed "CDATA" "]]>"
  | commentNotClosed => "syntax error: " ++ notClosed "comment" "-->"
  | doctypeNotClosed => "syntax error: " ++ notClosed "DOCTYPE" ">"
  | doctypeUnnamed =>
    "ill-formed document: `<!DOCTYPE>` declaration does not contain a name of a document type"
  | instructionNotClosed => "syntax error: " ++ notClosed "processing instruction" "?>"
  | declarationNotClosed => "syntax error: " ++ notClosed "XML declaration" "?>"
  | referenceNotClosed =>
    "ill-formed document: " ++ notClosed "entity or character reference" ";"
  | mismatchedEnd expected found =>
    "ill-formed document: expected `</" ++ expected ++ ">`, but `</" ++ found ++ ">` was found"
  | unmatchedEnd found =>
    "ill-formed document: close tag `</" ++ found ++ ">` does not match any open tag"

end ApiHeader.Markup
