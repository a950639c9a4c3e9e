/-
# Spelling of names

Two ways of respelling a name: words parted by underscores in capitals, and the
first letter made small. Words are found by their capitals, so a name without
small letters and digits is kept as it is.
-/

import ApiHeader.Text.CaseMap

namespace ApiHeader.Text

/-- Whether a capital after this character starts a new word. -/
def endsWord (c : Char) : Bool :=
  isLowercase c || ('0' ≤ c && c ≤ '9')

/-- The capital of a small ASCII letter; every other character is kept. -/
def asciiCapital (c : Char) : Char :=
  if 'a' ≤ c ∧ c ≤ 'z' then Char.ofNat (c.toNat - 32) else c

/-- Respell characters, given the one that stands before them. -/
def screamingSnakeFrom (previous : Option Char) : List Char → List Char
  | [] => []
  | c :: rest =>
    let parted := isUppercase c && previous.any endsWord
    let respelled := asciiCapital c :: screamingSnakeFrom (some c) rest
    if parted then '_' :: respelled else respelled

/-- A name in capitals, with an underscore before each capital that follows a small
letter or a digit. -/
def screamingSnake (name : String) : String :=
  String.ofList (screamingSnakeFrom none name.toList)

/-- A name with its first character made small. -/
def lowerFirst (name : String) : String :=
  match name.toList with
  | c :: rest => String.ofList (lowerChar c ++ rest)
  | [] => ""

end ApiHeader.Text
