/-!
# Single precision numbers

Non-negative finite numbers with a significand of at most 24 bits, as the
IEEE 754 format binary32 has them.  Every operation computes the exact
quotient and rounds it once, to the nearest number with ties to the even
significand.  The text of a number is its exact value, rounded once to a fixed
number of decimal places in the same way.
-/

namespace ReadThrough.Numeric

/-- The integer nearest to `numerator / denominator`; ties go to the even one. -/
def roundDiv (numerator denominator : Nat) : Nat :=
  let quotient := numerator / denominator
  let twice := 2 * (numerator % denominator)
  if twice < denominator then quotient
  else if denominator < twice then quotient + 1
  else quotient + quotient % 2

/-- The number `significand * 2 ^ exponent`. -/
structure Binary32 where
  significand : Nat
  exponent : Int
  deriving DecidableEq, Repr

namespace Binary32

/-- Numbers below `2 ^ significandBits` are exact at their exponent. -/
def significandBits : Nat := 24

def leastExponent : Int := -149

def zero : Binary32 := ⟨0, leastExponent⟩

/-- The quotient `(numerator / denominator) / 2 ^ exponent` as a fraction of natural numbers. -/
def scaled (numerator denominator : Nat) (exponent : Int) : Nat × Nat :=
  match exponent with
  | .ofNat shift => (numerator, denominator <<< shift)
  | .negSucc shift => (numerator <<< (shift + 1), denominator)

/-- A rounded significand of 25 bits is halved, which is exact. -/
def normalized (significand : Nat) (exponent : Int) : Binary32 :=
  if significand < 1 <<< significandBits then ⟨significand, exponent⟩
  else ⟨significand / 2, exponent + 1⟩

/-- The number nearest to `numerator / denominator`; ties go to the even significand. -/
def ofQuotient (numerator denominator : Nat) : Binary32 :=
  if numerator = 0 ∨ denominator = 0 then zero
  else
    let estimate : Int := (numerator.log2 : Int) - denominator.log2 - significandBits
    let floorAt (exponent : Int) : Nat :=
      let (above, below) := scaled numerator denominator exponent
      above / below
    let fitted :=
      if floorAt (estimate + 1) < 1 <<< (significandBits - 1) then estimate else estimate + 1
    let exponent := max fitted leastExponent
    let (above, below) := scaled numerator denominator exponent
    normalized (roundDiv above below) exponent

def toFraction (number : Binary32) : Nat × Nat :=
  match number.exponent with
  | .ofNat shift => (number.significand <<< shift, 1)
  | .negSucc shift => (number.significand, 1 <<< (shift + 1))

def ofNat (value : Nat) : Binary32 :=
  ofQuotient value 1

/-- The rounded quotient of two numbers; a quotient by zero does not occur and is zero. -/
def div (left right : Binary32) : Binary32 :=
  let (leftAbove, leftBelow) := left.toFraction
  let (rightAbove, rightBelow) := right.toFraction
  ofQuotient (leftAbove * rightBelow) (leftBelow * rightAbove)

def mul (left right : Binary32) : Binary32 :=
  let (leftAbove, leftBelow) := left.toFraction
  let (rightAbove, rightBelow) := right.toFraction
  ofQuotient (leftAbove * rightAbove) (leftBelow * rightBelow)

def ble (left right : Binary32) : Bool :=
  let (leftAbove, leftBelow) := left.toFraction
  let (rightAbove, rightBelow) := right.toFraction
  leftAbove * rightBelow ≤ rightAbove * leftBelow

/-- `part / whole * 100`, rounded after the conversions and after each operation. -/
def percentage (part whole : Nat) : Binary32 :=
  ((ofNat part).div (ofNat whole)).mul (ofNat 100)

def toBits (number : Binary32) : Nat :=
  if number.significand < 1 <<< (significandBits - 1) then number.significand
  else
    (number.exponent - leastExponent + 1).toNat <<< (significandBits - 1) +
      (number.significand - 1 <<< (significandBits - 1))

end Binary32

def lastDigits : (width value : Nat) → List Char
  | 0, _ => []
  | width + 1, value => lastDigits width (value / 10) ++ [Nat.digitChar (value % 10)]

namespace Binary32

/-- The number in units of the last of `places` decimal places. -/
def units (number : Binary32) (places : Nat) : Nat :=
  let (above, below) := number.toFraction
  roundDiv (above * Nat.pow 10 places) below

/-- The number with exactly `places` digits after the point, which is absent for none. -/
def fixedPlaces (number : Binary32) (places : Nat) : String :=
  let units := number.units places
  let whole := toString (units / Nat.pow 10 places)
  match places with
  | 0 => whole
  | places + 1 => whole ++ "." ++ String.ofList (lastDigits (places + 1) units)

end Binary32

end ReadThrough.Numeric
