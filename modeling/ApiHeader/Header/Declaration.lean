/-
# Declarations of a header

Everything that introduces a name into a header, before it becomes text.
-/

import ApiHeader.Header.Line
import ApiHeader.Header.Signature

namespace ApiHeader.Header

/-- A declaration. The mark is the macro that follows the declared name. -/
inductive Declaration
  /-- A macro with a parenthesised literal. -/
  | constant (name literal : String)
  /-- Another name for a type. -/
  | synonym (type name : String)
  /-- Another name for a type, with a mark. -/
  | markedSynonym (type name mark : String)
  /-- A pointer to a structure that is never completed. -/
  | handle (tag name mark : String)
  /-- A structure that is completed later. -/
  | forward (tag : String)
  /-- Enumerators with their values; the last closes the list. -/
  | enumeration (name : String) (enumerators : List (String × String)) (last : String × String)
      (mark : String)
  | functionPointer (name : String) (signature : Signature) (mark : String)
  | struct (name : String) (fields : List Declarator) (mark : String)
  /-- An exported function. -/
  | prototype (exportMacro name : String) (signature : Signature) (mark : String)
  deriving DecidableEq, Repr

/-- How far the parts of a body are indented. -/
def bodyIndent : Nat := 4

/-- The lines of a declaration. -/
def Declaration.lines : Declaration → List Line
  | constant name literal => [.directive 0 (.define name ("(" ++ literal ++ ")"))]
  | synonym type name => [.code 0 ("typedef " ++ type ++ " " ++ name ++ ";")]
  | markedSynonym type name mark =>
    [.code 0 ("typedef " ++ type ++ " " ++ name ++ " " ++ mark ++ ";")]
  | handle tag name mark =>
    [.code 0 ("typedef struct " ++ tag ++ "* " ++ name ++ " " ++ mark ++ ";")]
  | forward tag => [.code 0 ("struct " ++ tag ++ ";")]
  | enumeration name enumerators last mark =>
    [.code 0 ("typedef enum " ++ name ++ " \x7b")] ++
      enumerators.map (fun enumerator =>
        .code bodyIndent (enumerator.1 ++ " = " ++ enumerator.2 ++ ",")) ++
      [.code bodyIndent (last.1 ++ " = " ++ last.2),
        .code 0 ("\x7d " ++ name ++ " " ++ mark ++ ";")]
  | functionPointer name signature mark =>
    [.code 0 ("typedef " ++ signature.returnType ++ " (*" ++ name ++ ")(" ++
      signature.parameterList ++ ") " ++ mark ++ ";")]
  | struct name fields mark =>
    [.code 0 ("typedef struct " ++ name ++ " \x7b")] ++
      fields.map (fun field => .code bodyIndent (field.render ++ ";")) ++
      [.code 0 ("\x7d " ++ name ++ " " ++ mark ++ ";")]
  | prototype exportMacro name signature mark =>
    [.code 0 (exportMacro ++ " " ++ signature.returnType ++ " " ++ name ++ "(" ++
      signature.parameterList ++ ") " ++ mark ++ ";")]

/-- A piece of a section: a declaration, or a line that declares nothing. -/
inductive Item
  | line (content : Line)
  | declaration (content : Declaration)
  deriving DecidableEq, Repr

/-- The lines of a piece. -/
def Item.lines : Item → List Line
  | line content => [content]
  | declaration content => content.lines

/-- The text of a list of pieces. -/
def renderItems (items : List Item) : String :=
  renderLines (items.flatMap Item.lines)

/-- A blank line. -/
def Item.blank : Item := .line .blank

/-- A directive that is not indented. -/
def Item.directive (directive : Directive) : Item := .line (.directive 0 directive)

/-- Declarations one after the other, parted from what follows by a blank line. -/
def paragraph (declarations : List Declaration) : List Item :=
  if declarations.isEmpty then [] else declarations.map .declaration ++ [.blank]

end ApiHeader.Header
