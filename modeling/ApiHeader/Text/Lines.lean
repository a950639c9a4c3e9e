/-
# Lines of a text

A line ends with a line feed; one carriage return right before it belongs to the
line's end. A carriage return on its own ends nothing, and a line feed at the
very end of the text starts no further line.
-/

namespace ApiHeader.Text

/-- The characters of a finished line, collected last character first. -/
def finishedLine : List Char → List Char
  | '\r' :: before => before.reverse
  | collected => collected.reverse

/-- The lines of the remaining characters, of which the first has begun with what
is collected so far, last character first. -/
def linesFrom (collected : List Char) : List Char → List (List Char)
  | [] => if collected.isEmpty then [] else [collected.reverse]
  | c :: rest =>
    if c == '\n' then finishedLine collected :: linesFrom [] rest
    else linesFrom (c :: collected) rest

/-- The lines of a text. -/
def lines (s : String) : List String :=
  (linesFrom [] s.toList).map String.ofList

/-- Characters with every line end written as one line feed, whether it was a
carriage return, a line feed or both. -/
def unifyLineEnds : List Char → List Char
  | '\r' :: '\n' :: rest => '\n' :: unifyLineEnds rest
  | '\r' :: rest => '\n' :: unifyLineEnds rest
  | c :: rest => c :: unifyLineEnds rest
  | [] => []

end ApiHeader.Text
