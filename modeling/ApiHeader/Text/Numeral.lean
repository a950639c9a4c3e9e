/-
# Unsigned numerals

Reading digits of a radix from the left, with a bound that the value has to stay
below. The first thing that goes wrong is what is reported, and a value that
reaches the bound is never wrapped. Only the digits and letters of ASCII count.
-/

namespace ApiHeader.Text

/-- Why characters are no numeral. -/
inductive NumeralFault
  | empty
  | invalidDigit
  | tooLarge
  deriving DecidableEq, Repr

/-- The value of a digit, if the radix has it. -/
def digitValue? (radix : Nat) (c : Char) : Option Nat :=
  let value? :=
    if '0' ≤ c ∧ c ≤ '9' then some (c.toNat - '0'.toNat)
    else if 'a' ≤ c ∧ c ≤ 'z' then some (c.toNat - 'a'.toNat + 10)
    else if 'A' ≤ c ∧ c ≤ 'Z' then some (c.toNat - 'A'.toNat + 10)
    else none
  value?.filter (· < radix)

/-- Read on from a value that the digits so far have given. -/
def readDigits (radix bound value : Nat) : List Char → Except NumeralFault Nat
  | [] => .ok value
  | c :: rest =>
    match digitValue? radix c with
    | none => .error .invalidDigit
    | some digit =>
      let next := value * radix + digit
      if next < bound then readDigits radix bound next rest else .error .tooLarge

/-- The value of a numeral below a bound. -/
def readNumeral (radix bound : Nat) (cs : List Char) : Except NumeralFault Nat :=
  if cs.isEmpty then .error .empty else readDigits radix bound 0 cs

/-- A numeral that may be led by a plus sign. -/
def readSigned? (radix bound : Nat) (cs : List Char) : Option Nat :=
  let digits :=
    match cs with
    | '+' :: rest => rest
    | _ => cs
  (readNumeral radix bound digits).toOption

/-- The capital hexadecimal digit of a value below sixteen. -/
def hexDigit (value : Nat) : Char :=
  if value < 10 then Char.ofNat ('0'.toNat + value) else Char.ofNat ('A'.toNat + (value - 10))

/-- The last `width` hexadecimal digits of a number. -/
def hexDigits : Nat → Nat → List Char
  | 0, _ => []
  | width + 1, number => hexDigits width (number / 16) ++ [hexDigit (number % 16)]

end ApiHeader.Text
