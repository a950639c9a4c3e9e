/-
# Entity and character references

Five entities are known by name; a number sign introduces a character by its
code point. In an attribute value the references are resolved in place, and a
fault is reported with the bytes of the value that it concerns.
-/

import ApiHeader.Markup.Cut
import ApiHeader.Text.Numeral

namespace ApiHeader.Markup

open ApiHeader.Text

/-- Why a reference by code point names no character. -/
inductive CharacterFault
  | signed
  | numeral (fault : NumeralFault)
  | null
  /-- The number is a surrogate or lies beyond the last code point. -/
  | notScalar (point : Nat)
  deriving DecidableEq, Repr

/-- The wording of a fault in a reference by code point. -/
def CharacterFault.message : CharacterFault → String
  | signed => "invalid character reference: unexpected number sign"
  | numeral .empty => "invalid character reference: cannot parse integer from empty string"
  | numeral .invalidDigit => "invalid character reference: invalid digit found in string"
  | numeral .tooLarge =>
    "invalid character reference: number too large to fit in target type"
  | null => "invalid character reference: 0x0 character is not permitted in XML"
  | notScalar point =>
    "invalid character reference: `" ++ toString point ++ "` is not a valid codepoint"

/-- Read digits that no sign leads. -/
def readPoint (radix : Nat) (digits : List Char) : Except CharacterFault Nat :=
  match digits with
  | '+' :: _ => .error .signed
  | '-' :: _ => .error .signed
  | _ => (readNumeral radix UInt32.size digits).mapError .numeral

/-- The character that the text after the number sign stands for; a small `x`
announces hexadecimal digits. -/
def readCharacter (cs : List Char) : Except CharacterFault Char := do
  let point ←
    match cs with
    | 'x' :: digits => readPoint 16 digits
    | digits => readPoint 10 digits
  if point = 0 then .error .null
  else if h : point.isValidChar then .ok (Char.ofNatAux point h)
  else .error (.notScalar point)

/-- The character that a known entity stands for. -/
def entity? : List Char → Option Char
  | ['l', 't'] => some '<'
  | ['g', 't'] => some '>'
  | ['a', 'm', 'p'] => some '&'
  | ['a', 'p', 'o', 's'] => some '\x27'
  | ['q', 'u', 'o', 't'] => some '\x22'
  | _ => none

/-- Why the references of an attribute value cannot be resolved. -/
inductive ReferenceFault
  | character (fault : CharacterFault)
  /-- No `;` ends the reference that starts at `start`. -/
  | notTerminated (start stop : Nat)
  | unknownEntity (start stop : Nat) (name : String)
  deriving DecidableEq, Repr

/-- The wording of a fault in an attribute value. -/
def ReferenceFault.message : ReferenceFault → String
  | character fault => fault.message
  | notTerminated start stop =>
    "Error while escaping character at range " ++ toString start ++ ".." ++ toString stop ++
      ": Cannot find ';' after '&'"
  | unknownEntity start stop name =>
    "at " ++ toString start ++ ".." ++ toString stop ++ ": unrecognized entity `" ++ name ++ "`"

/-- The character that a reference with the given name stands for, where the name
starts at a byte of the value. -/
def resolveName (start : Nat) (name : List Char) : Except ReferenceFault Char :=
  match name with
  | '#' :: digits => (readCharacter digits).mapError .character
  | _ =>
    match entity? name with
    | some c => .ok c
    | none => .error (.unknownEntity start (start + byteLength name) (String.ofList name))

/-- Whether a character belongs to the name of a reference inside a value. -/
def continuesName (c : Char) : Bool :=
  c != '&' && c != ';'

/-- Resolve the references of the rest of a value that is `size` bytes long. -/
def unescapeFrom (size : Nat) (cs : List Char) : Except ReferenceFault (List Char) :=
  match cs with
  | [] => .ok []
  | c :: rest =>
    if c == '&' then
      match _ : rest.dropWhile continuesName with
      | ';' :: after => do
        let resolved ← resolveName (size - byteLength rest) (rest.takeWhile continuesName)
        let others ← unescapeFrom size after
        return resolved :: others
      | _ => .error (.notTerminated (size - byteLength (c :: rest)) size)
    else do
      let others ← unescapeFrom size rest
      return c :: others
termination_by cs.length
decreasing_by
  · have bound := length_dropWhile_le continuesName rest
    have shape : rest.dropWhile continuesName = ';' :: after := ‹_›
    rw [shape] at bound
    simp at bound ⊢
    omega
  · simp

/-- An attribute value with its references resolved. Blanks and line ends are kept
as written. -/
def unescape (value : String) : Except ReferenceFault String :=
  (unescapeFrom (byteLength value.toList) value.toList).map String.ofList

end ApiHeader.Markup
