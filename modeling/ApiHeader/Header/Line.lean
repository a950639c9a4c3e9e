/-
# Lines of a header

A header is written line by line. Keeping the kinds of lines apart until they are
rendered leaves the nesting of preprocessor conditions visible without reading it
back out of text.
-/

namespace ApiHeader.Header

/-- A preprocessor directive. -/
inductive Directive
  | whenDefined (name : String)
  | whenUndefined (name : String)
  | ifDefined (name : String)
  | ifNotDefined (name : String)
  /-- The other branch of a condition, with what follows on the line. -/
  | otherwise (note : String)
  /-- The end of a condition, with what follows on the line. -/
  | endif (note : String)
  | define (name body : String)
  | includes (file : String)
  deriving DecidableEq, Repr

/-- The directive without its number sign. -/
def Directive.text : Directive → String
  | whenDefined name => "ifdef " ++ name
  | whenUndefined name => "ifndef " ++ name
  | ifDefined name => "if defined(" ++ name ++ ")"
  | ifNotDefined name => "if !defined(" ++ name ++ ")"
  | otherwise note => "else" ++ note
  | endif note => "endif" ++ note
  | define name body => "define " ++ name ++ (if body.isEmpty then "" else " " ++ body)
  | includes file => "include <" ++ file ++ ">"

/-- One line. -/
inductive Line
  | blank
  | comment (text : String)
  /-- A directive, indented after its number sign. -/
  | directive (indent : Nat) (content : Directive)
  | code (indent : Nat) (text : String)
  deriving DecidableEq, Repr

/-- The given number of spaces. -/
def spaces (count : Nat) : String :=
  String.ofList (List.replicate count ' ')

/-- A line without its end. -/
def Line.text : Line → String
  | blank => ""
  | comment text => if text.isEmpty then "//" else "// " ++ text
  | directive indent content => "#" ++ spaces indent ++ content.text
  | code indent text => spaces indent ++ text

/-- Lines as text, each ended by a line feed. -/
def renderLines (lines : List Line) : String :=
  String.ofList (lines.flatMap fun line => line.text.toList ++ ['\n'])

end ApiHeader.Header
