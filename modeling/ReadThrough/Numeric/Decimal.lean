/-!
# Numbers from digits

Reading digits in a base of at most sixteen, and reading a run of decimal digits
from left to right into a number below a limit.  There, the first character that
is no ASCII digit or that exceeds the limit decides the error.
-/

namespace ReadThrough.Numeric

def hexValue? (char : Char) : Option Nat :=
  if '0' ≤ char && char ≤ '9' then some (char.toNat - '0'.toNat)
  else if 'a' ≤ char && char ≤ 'f' then some (char.toNat - 'a'.toNat + 10)
  else if 'A' ≤ char && char ≤ 'F' then some (char.toNat - 'A'.toNat + 10)
  else none

def natural? (base : Nat) (digits : List Char) : Option Nat :=
  if digits.isEmpty then none
  else
    digits.foldlM
      (fun value char => do
        let digit ← hexValue? char
        if digit < base then some (value * base + digit) else none)
      0

end ReadThrough.Numeric

namespace ReadThrough.Numeric.Decimal

def wordLimit : Nat := 1 <<< 64

inductive ReadError where
  | invalidDigit
  | tooLarge
  deriving DecidableEq, Repr

def ReadError.message : ReadError → String
  | .invalidDigit => "invalid digit found in string"
  | .tooLarge => "number too large to fit in target type"

def digitValue (digit : Char) : Nat :=
  digit.toNat - '0'.toNat

/-- Continue reading a number below `limit` after the digits with the value `value`. -/
def readFrom (limit value : Nat) : List Char → Except ReadError Nat
  | [] => .ok value
  | char :: rest =>
    if char.isDigit then
      let next := 10 * value + digitValue char
      if next < limit then readFrom limit next rest else .error .tooLarge
    else .error .invalidDigit

def read (limit : Nat) (digits : List Char) : Except ReadError Nat :=
  readFrom limit 0 digits

/-- The number that a run of digits stands for, whatever its size. -/
def value (digits : List Char) : Nat :=
  digits.foldl (fun value digit => 10 * value + digitValue digit) 0

end ReadThrough.Numeric.Decimal
