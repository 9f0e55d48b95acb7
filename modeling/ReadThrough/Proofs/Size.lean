import ReadThrough.Proofs.Quantity
import ReadThrough.Size

/-!
# Reading sizes

A size is read exactly if it is written as a number with one of the letters of
the units, and neither the number nor the size leaves 64 bits.  Then it is the
number times the power of 1024 that the letter stands for.
-/

namespace ReadThrough.Size

open Quantity (Legible Knows readWith)

/-- The letters of the units with the powers of 1024 that they stand for. -/
def units : List (List Char × Nat) := [
  ([], 0), (['b'], 0), (['B'], 0), (['k'], 1), (['K'], 1), (['m'], 2), (['M'], 2), (['g'], 3),
  (['G'], 3), (['t'], 4), (['T'], 4)]

theorem knows_units : Knows exponent? units where
  known letters exponent := by
    constructor
    · intro known
      unfold exponent? at known
      split at known <;> cases known <;> decide
    · have all : ∀ unit ∈ units, exponent? unit.1 = some unit.2 := by decide
      exact all (letters, exponent)
  words := by decide

/-- So many bytes, unless they leave 64 bits. -/
def amount (text : String) (exponent number : Nat) : Except Quantity.ReadError Nat :=
  if number * 1024 ^ exponent < 2 ^ 64 then .ok (number * 1024 ^ exponent)
  else .error (.outOfRange text)

theorem ofText_eq (text : String) : ofText text = readWith exponent? (amount text) text := by
  unfold ofText readWith
  cases Quantity.Expression.ofText? text with
  | none => rfl
  | some expression =>
      dsimp only
      cases exponent? expression.unit with
      | none => rfl
      | some exponent =>
          dsimp only
          cases Numeric.Decimal.read _ expression.digits with
          | error cause => rfl
          | ok number => rfl

theorem amount_eq_ok_iff {text : String} {exponent number bytes : Nat} :
    amount text exponent number = .ok bytes ↔
      number * 1024 ^ exponent < 2 ^ 64 ∧ bytes = number * 1024 ^ exponent := by
  rw [amount]
  split
  · rename_i fits
    rw [Except.ok.injEq, and_iff_right fits, eq_comm]
  · rename_i large
    simp only [reduceCtorEq, large, false_and]

theorem amount_eq_error_iff {text : String} {exponent number : Nat}
    {error : Quantity.ReadError} :
    amount text exponent number = .error error ↔
      2 ^ 64 ≤ number * 1024 ^ exponent ∧ error = .outOfRange text := by
  rw [amount, ← Nat.not_lt]
  split
  · rename_i fits
    simp only [reduceCtorEq, fits, not_true, false_and]
  · rename_i large
    rw [Except.error.injEq, and_iff_right large, eq_comm]

/-- A text is read as a size exactly if it is digits and at most one letter of the units, with
spaces around them, and neither the number nor its product with the unit leaves 64 bits.  A
product out of range is reported as such, and whatever is refused is reported. -/
theorem reads_exact_sizes (text : String) :
    (∀ bytes, ofText text = .ok bytes ↔
      ∃ exponent number, Legible units text exponent number ∧
        number * 1024 ^ exponent < 2 ^ 64 ∧ bytes = number * 1024 ^ exponent) ∧
    (ofText text = .error (.outOfRange text) ↔
      ∃ exponent number, Legible units text exponent number ∧
        2 ^ 64 ≤ number * 1024 ^ exponent) ∧
    ∀ error, ofText text = .error error → error.isFault = false := by
  rw [ofText_eq]
  refine ⟨fun bytes => ?_, ?_, ?_⟩
  · rw [knows_units.readWith_eq_iff (by simp) (by simp)]
    simp only [amount_eq_ok_iff]
  · rw [knows_units.readWith_eq_iff (by simp) (by simp)]
    simp only [amount_eq_error_iff, and_true]
  · intro error refused
    cases error with
    | overflow =>
        rw [knows_units.readWith_eq_iff (by simp) (by simp)] at refused
        obtain ⟨exponent, number, -, worked⟩ := refused
        cases (amount_eq_error_iff.mp worked).2
    | malformed text => rfl
    | digits text cause => rfl
    | outOfRange text => rfl

/-- Leading zeros are digits like others. -/
example : (ofText " 0064 M ").toOption = some (64 * 1024 * 1024) := by decide +kernel

end ReadThrough.Size
