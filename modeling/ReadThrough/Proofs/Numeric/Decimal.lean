import Mathlib.Algebra.Group.Nat.Defs
import ReadThrough.Numeric.Decimal

/-!
# Reading decimal numbers

A run of characters is read as a number below a limit if all of them are ASCII
digits and the number that they stand for is below the limit.  No later digit
makes up for an earlier excess, so the number is never read in part.
-/

namespace ReadThrough.Numeric.Decimal

/-- The number that further digits make of one. -/
def extend (value : Nat) (digits : List Char) : Nat :=
  digits.foldl (fun value digit => 10 * value + digitValue digit) value

theorem extend_cons (value : Nat) (digit : Char) (rest : List Char) :
    extend value (digit :: rest) = extend (10 * value + digitValue digit) rest := by
  rw [extend, extend, List.foldl_cons]

theorem le_extend (value : Nat) (digits : List Char) : value ≤ extend value digits := by
  induction digits generalizing value with
  | nil => exact Nat.le_refl value
  | cons digit rest ih =>
      rw [extend_cons]
      exact Nat.le_trans (by omega) (ih (10 * value + digitValue digit))

theorem readFrom_eq_ok_iff {limit value number : Nat} (below : value < limit)
    (digits : List Char) :
    readFrom limit value digits = .ok number ↔
      (∀ digit ∈ digits, digit.isDigit = true) ∧ extend value digits = number ∧
        number < limit := by
  induction digits generalizing value with
  | nil =>
      constructor
      · rintro ⟨⟩
        exact ⟨by simp, rfl, below⟩
      · rintro ⟨-, rfl, -⟩
        rfl
  | cons digit rest ih =>
      rw [readFrom, List.forall_mem_cons, extend_cons]
      by_cases isDigit : digit.isDigit = true
      · rw [if_pos isDigit]
        by_cases fits : 10 * value + digitValue digit < limit
        · simp only [if_pos fits, ih fits, isDigit, true_and]
        · -- What is beyond the limit stays so, whatever digits follow.
          have exceeds := le_extend (10 * value + digitValue digit) rest
          rw [if_neg fits]
          constructor
          · rintro ⟨⟩
          · rintro ⟨-, rfl, small⟩
            omega
      · rw [if_neg isDigit]
        constructor
        · rintro ⟨⟩
        · rintro ⟨⟨digital, -⟩, -⟩
          exact absurd digital isDigit

theorem read_eq_ok_iff {limit number : Nat} (positive : 0 < limit) (digits : List Char) :
    read limit digits = .ok number ↔
      (∀ digit ∈ digits, digit.isDigit = true) ∧ value digits = number ∧ number < limit :=
  readFrom_eq_ok_iff positive digits

theorem read_word_eq_ok_iff {number : Nat} (digits : List Char) :
    read wordLimit digits = .ok number ↔
      (∀ digit ∈ digits, digit.isDigit = true) ∧ value digits = number ∧ number < 2 ^ 64 :=
  read_eq_ok_iff (Nat.two_pow_pos 64) digits

end ReadThrough.Numeric.Decimal
