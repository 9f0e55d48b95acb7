import Mathlib.Algebra.Group.Nat.Defs
import ReadThrough.Numeric.Binary32
import ReadThrough.Numeric.Decimal

/-!
# Shown numbers

A number is shown as a multiple of its last decimal place.  This multiple is
written out in full, and lies within half a place of the number.
-/

namespace ReadThrough.Numeric

/-! ## Rounded quotients -/

section

variable {denominator : Nat} (positive : 0 < denominator)

include positive

/-- Twice the rounded quotient is at most one denominator above twice the quotient. -/
theorem roundDiv_le (numerator : Nat) :
    2 * (roundDiv numerator denominator * denominator) ≤ 2 * numerator + denominator := by
  have split := Nat.div_add_mod numerator denominator
  have below := Nat.mod_lt numerator positive
  have parity : (numerator / denominator) % 2 ≤ 1 := by omega
  simp only [roundDiv]
  rw [Nat.mul_comm] at split
  split
  · omega
  · split
    · rw [Nat.add_mul]; omega
    · rw [Nat.add_mul]
      have bound : (numerator / denominator) % 2 * denominator ≤ 1 * denominator :=
        Nat.mul_le_mul_right _ parity
      omega

/-- Twice the quotient is at most one denominator above twice the rounded quotient. -/
theorem le_roundDiv (numerator : Nat) :
    2 * numerator ≤ 2 * (roundDiv numerator denominator * denominator) + denominator := by
  have split := Nat.div_add_mod numerator denominator
  have below := Nat.mod_lt numerator positive
  simp only [roundDiv]
  rw [Nat.mul_comm] at split
  split
  · omega
  · split
    · rw [Nat.add_mul]; omega
    · rw [Nat.add_mul]; omega

theorem roundDiv_mul (quotient : Nat) :
    roundDiv (quotient * denominator) denominator = quotient := by
  simp [roundDiv, positive]

end

/-! ## Digits -/

@[simp]
theorem length_lastDigits (width value : Nat) : (lastDigits width value).length = width := by
  induction width generalizing value with
  | zero => rfl
  | succ width ih => simp [lastDigits, ih]

theorem digitValue_digitChar {digit : Nat} (below : digit < 10) :
    Decimal.digitValue (Nat.digitChar digit) = digit := by
  rw [Decimal.digitValue, Nat.toNat_digitChar_of_lt_ten below]
  exact Nat.add_sub_cancel_left 48 digit

/-- The last digits of a number are read as what they leave of it. -/
theorem value_lastDigits (width value : Nat) :
    Decimal.value (lastDigits width value) = value % 10 ^ width := by
  induction width generalizing value with
  | zero => rw [Nat.pow_zero, Nat.mod_one]; rfl
  | succ width ih =>
      have last := digitValue_digitChar (Nat.mod_lt value (by decide : 0 < 10))
      rw [lastDigits, Decimal.value, List.foldl_append, ← Decimal.value, ih, Nat.pow_succ',
        Nat.mod_mul]
      simp only [List.foldl_cons, List.foldl_nil, last]
      omega

/-! ## Shown numbers -/

namespace Binary32

/-- As many units of the last place as the number has, up to half a unit. -/
def Near (number : Binary32) (places units : Nat) : Prop :=
  2 * (units * number.toFraction.2) ≤
      2 * (number.toFraction.1 * 10 ^ places) + number.toFraction.2 ∧
    2 * (number.toFraction.1 * 10 ^ places) ≤
      2 * (units * number.toFraction.2) + number.toFraction.2

theorem toFraction_positive (number : Binary32) : 0 < number.toFraction.2 := by
  rw [toFraction]
  split
  · exact Nat.one_pos
  · rw [Nat.one_shiftLeft]
    exact Nat.two_pow_pos _

theorem near_units (number : Binary32) (places : Nat) :
    number.Near places (number.units places) :=
  ⟨roundDiv_le number.toFraction_positive _, le_roundDiv number.toFraction_positive _⟩

/-- A multiple of the last place is not rounded. -/
theorem units_of_exact {number : Binary32} {places units : Nat}
    (exact : number.toFraction.1 * 10 ^ places = units * number.toFraction.2) :
    number.units places = units := by
  change roundDiv (number.toFraction.1 * 10 ^ places) number.toFraction.2 = units
  rw [exact]
  exact roundDiv_mul number.toFraction_positive units

/--
A number is shown with all of its places, and they are read as the multiple of the
last place that is nearest to the number, which is the number itself if it is one.
-/
theorem fixedPlaces_reads (number : Binary32) (places : Nat) :
    ∃ (whole : Nat) (fraction : List Char),
      number.fixedPlaces (places + 1) = toString whole ++ "." ++ String.ofList fraction ∧
      fraction.length = places + 1 ∧
      let units := whole * 10 ^ (places + 1) + Decimal.value fraction
      number.Near (places + 1) units ∧
      ∀ multiple, number.toFraction.1 * 10 ^ (places + 1) = multiple * number.toFraction.2 →
        units = multiple := by
  refine ⟨number.units (places + 1) / 10 ^ (places + 1),
    lastDigits (places + 1) (number.units (places + 1)), rfl, length_lastDigits .., ?_⟩
  rw [value_lastDigits, Nat.div_add_mod']
  exact ⟨near_units .., fun multiple => units_of_exact⟩

end Binary32

end ReadThrough.Numeric
