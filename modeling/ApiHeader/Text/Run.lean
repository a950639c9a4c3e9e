/-
# Runs of code points

A character property is given as a list of runs. A run steps through its code
points by one or by two, because in many alphabets the capital and the small
letters alternate. Nothing here says which property a list of runs stands for.
-/

namespace ApiHeader.Text

/-- The code points `first`, `first + step`, … up to `last`. -/
structure Run where
  first : Nat
  last : Nat
  step : Nat
  deriving DecidableEq, Repr

/-- Whether a code point is one of the run's. -/
def Run.covers (run : Run) (point : Nat) : Bool :=
  run.first ≤ point && point ≤ run.last && (point - run.first) % run.step == 0

/-- Whether some run of a list covers the character. -/
def coveredBy (runs : List Run) (c : Char) : Bool :=
  runs.any fun run => run.covers c.toNat

end ApiHeader.Text
