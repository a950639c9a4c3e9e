/-
# Events of a document

The lexemes of a document with the nesting of its elements checked: an end tag
has to name the innermost open element. A document that cannot be read to its end
has a fault as its last event, so whoever stops before it never meets it.
-/

import ApiHeader.Markup.Lexeme

namespace ApiHeader.Markup

/-- One step through a document. -/
inductive Event
  | start (tag : Tag)
  /-- An element without content, written as one tag. -/
  | empty (tag : Tag)
  | close (name : String)
  | text (content : String)
  | cdata (content : String)
  | reference (name : String)
  /-- A comment, an instruction, a declaration or a document type. -/
  | aside
  /-- Reading ends here. -/
  | fault (cause : Fault)
  deriving DecidableEq

/-- The events of the remaining characters, given the names of the open elements
with the innermost first. -/
def eventsFrom (opened : List String) (input : List Char) : List Event :=
  match input with
  | [] => []
  | c :: cs =>
    match _ : Lexeme.next c cs with
    | .error cause => [.fault cause]
    | .ok (lexeme, rest) =>
      match lexeme with
      | .text content => .text content :: eventsFrom opened rest
      | .cdata content => .cdata content :: eventsFrom opened rest
      | .reference name => .reference name :: eventsFrom opened rest
      | .aside => .aside :: eventsFrom opened rest
      | .opening tag true => .empty tag :: eventsFrom opened rest
      | .opening tag false => .start tag :: eventsFrom (tag.name :: opened) rest
      | .closing found =>
        match opened with
        | [] => [.fault (.unmatchedEnd found)]
        | expected :: outer =>
          if expected = found then .close found :: eventsFrom outer rest
          else [.fault (.mismatchedEnd expected found)]
termination_by input.length
decreasing_by
  all_goals
    have := Lexeme.length_of_next ‹_›
    simp
    omega

/-- The mark that may lead a document and is not part of it. -/
def byteOrderMark : Char := '\ufeff'

/-- The events of a document. -/
def events (document : String) : List Event :=
  match document.toList with
  | c :: cs => if c == byteOrderMark then eventsFrom [] cs else eventsFrom [] (c :: cs)
  | [] => []

end ApiHeader.Markup
