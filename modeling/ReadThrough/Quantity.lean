import ReadThrough.Numeric.Decimal
import ReadThrough.Text.Blank

/-!
# Quantities

A quantity is written as a run of digits and an optional unit.  Spaces may
stand before the digits, between the digits and the unit, and at the end.
-/

namespace ReadThrough.Quantity

/-- The parts of a written quantity.  A missing unit is empty. -/
structure Expression where
  digits : List Char
  unit : List Char
  deriving DecidableEq, Repr

def isSpace (char : Char) : Bool :=
  char == ' '

/-- The parts of a quantity, unless the text has no digits at their place. -/
def Expression.ofText? (text : String) : Option Expression :=
  let start := text.toList.dropWhile isSpace
  let digits := start.takeWhile Text.isDecimalDigit
  let unit := (start.dropWhile Text.isDecimalDigit).dropWhile isSpace
  if digits.isEmpty then none
  else some ⟨digits, Text.dropTrailing isSpace unit⟩

inductive ReadError where
  /-- The text does not have the form of a quantity. -/
  | malformed (text : String)
  /-- The digits are no number of 64 bits. -/
  | digits (text : String) (cause : Numeric.Decimal.ReadError)
  /-- The quantity in its base unit was found to be no number of 64 bits. -/
  | outOfRange (text : String)
  /-- An unchecked multiplication left 64 bits, which stops the program. -/
  | overflow
  deriving DecidableEq, Repr

/-- Whether the program stops instead of reporting the error. -/
def ReadError.isFault : ReadError → Bool
  | .overflow => true
  | _ => false

def overflowMessage : String := "attempt to multiply with overflow"

end ReadThrough.Quantity
