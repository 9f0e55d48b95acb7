import ReadThrough.Proofs.Quantity
import ReadThrough.Span

/-!
# Reading durations

A duration is read exactly if it is written as a number with one of the units,
and neither the number nor the number of seconds leaves 64 bits.  Then it is the
number times the unit.  The seconds are not checked beforehand: a number of 64
bits whose seconds leave them stops the reader, although a size out of range is
refused with a report.
-/

namespace ReadThrough.Span

open Quantity (Legible Knows readWith)

def units : List (List Char × Scale) := [
  ([], .milliseconds), (['m', 's'], .milliseconds), (['M', 'S'], .milliseconds),
  (['s'], .seconds 1), (['S'], .seconds 1), (['m'], .seconds 60), (['M'], .seconds 60),
  (['h'], .seconds (60 * 60)), (['H'], .seconds (60 * 60)),
  (['d'], .seconds (60 * 60 * 24)), (['D'], .seconds (60 * 60 * 24))]

theorem knows_units : Knows scale? units where
  known letters scale := by
    constructor
    · intro known
      unfold scale? at known
      split at known <;> cases known <;> decide
    · have all : ∀ unit ∈ units, scale? unit.1 = some unit.2 := by decide
      exact all (letters, scale)
  words := by decide

def Scale.nanoseconds : Scale → Nat
  | .milliseconds => 1000000
  | .seconds factor => factor * 1000000000

/-- The seconds of a number of units stay within 64 bits. -/
def Scale.Fits (number : Nat) : Scale → Prop
  | .milliseconds => True
  | .seconds factor => number * factor < 2 ^ 64

/-- So many units, unless their seconds leave 64 bits. -/
def amount (scale : Scale) (number : Nat) : Except Quantity.ReadError Span :=
  match scale with
  | .milliseconds => .ok (ofMilliseconds number)
  | .seconds factor =>
    if number * factor < 2 ^ 64 then .ok (ofSeconds (number * factor)) else .error .overflow

theorem ofText_eq (text : String) : ofText text = readWith scale? amount text := by
  unfold ofText readWith
  cases Quantity.Expression.ofText? text with
  | none => rfl
  | some expression =>
      dsimp only
      cases scale? expression.unit with
      | none => rfl
      | some scale =>
          dsimp only
          cases Numeric.Decimal.read _ expression.digits with
          | error cause => rfl
          | ok number =>
              cases scale with
              | milliseconds => rfl
              | seconds factor => rfl

theorem amount_eq_ok_iff {scale : Scale} {number : Nat} {span : Span} :
    amount scale number = .ok span ↔
      scale.Fits number ∧ span.nanoseconds = number * scale.nanoseconds := by
  obtain ⟨nanoseconds⟩ := span
  cases scale with
  | milliseconds => simp [amount, Scale.Fits, Scale.nanoseconds, ofMilliseconds, eq_comm]
  | seconds factor =>
      rw [amount, Scale.Fits, Scale.nanoseconds, ← Nat.mul_assoc]
      split
      · rename_i fits
        rw [Except.ok.injEq, ofSeconds, Span.mk.injEq, and_iff_right fits, eq_comm]
      · rename_i large
        simp only [reduceCtorEq, large, false_and]

theorem amount_eq_error_iff {scale : Scale} {number : Nat} {error : Quantity.ReadError} :
    amount scale number = .error error ↔ ¬ scale.Fits number ∧ error = .overflow := by
  cases scale with
  | milliseconds => simp [amount, Scale.Fits]
  | seconds factor =>
      rw [amount, Scale.Fits]
      split
      · rename_i fits
        simp only [reduceCtorEq, fits, not_true, false_and]
      · rename_i large
        rw [Except.error.injEq, and_iff_right large, eq_comm]

/-- A text is read as a duration exactly if it is digits and at most one unit, with spaces
around them, and neither the number nor its seconds leave 64 bits.  The reader stops exactly
if the text is of this form and only the seconds leave 64 bits; whatever else is refused is
reported. -/
theorem reads_exact_durations (text : String) :
    (∀ span, ofText text = .ok span ↔
      ∃ scale number, Legible units text scale number ∧ scale.Fits number ∧
        span.nanoseconds = number * scale.nanoseconds) ∧
    ((∃ error, ofText text = .error error ∧ error.isFault = true) ↔
      ∃ scale number, Legible units text scale number ∧ ¬ scale.Fits number) := by
  rw [ofText_eq]
  refine ⟨fun span => ?_, ?_, ?_⟩
  · rw [knows_units.readWith_eq_iff (by simp) (by simp)]
    simp only [amount_eq_ok_iff]
  · rintro ⟨error, refused, fault⟩
    obtain rfl : error = .overflow := by
      cases error with
      | overflow => rfl
      | malformed text => cases fault
      | digits text cause => cases fault
      | outOfRange text => cases fault
    rw [knows_units.readWith_eq_iff (by simp) (by simp)] at refused
    obtain ⟨scale, number, legible, worked⟩ := refused
    exact ⟨scale, number, legible, (amount_eq_error_iff.mp worked).1⟩
  · rintro ⟨scale, number, legible, large⟩
    refine ⟨.overflow, ?_, rfl⟩
    rw [knows_units.readWith_of_legible legible]
    exact amount_eq_error_iff.mpr ⟨large, rfl⟩

/-- So many minutes are a number of 64 bits, but their seconds are not. -/
theorem legible_minutes :
    Legible units "307445734561825861m" (.seconds 60) 307445734561825861 where
  written :=
    ⟨['m'], by decide, "307445734561825861".toList, ⟨0, 0, 0, by decide⟩, by decide,
      List.all_eq_true.mp (by decide), by decide⟩
  fits := by decide

/-- Not every duration that is refused is reported. -/
theorem not_every_refusal_reported :
    ofText "307445734561825861m" = .error .overflow ∧
      ¬ ∀ text error, ofText text = .error error → error.isFault = false := by
  have large : ¬ (Scale.seconds 60).Fits 307445734561825861 := by
    unfold Scale.Fits
    decide
  have stopped : ofText "307445734561825861m" = .error .overflow := by
    rw [ofText_eq, knows_units.readWith_of_legible legible_minutes]
    exact amount_eq_error_iff.mpr ⟨large, rfl⟩
  refine ⟨stopped, fun reported => ?_⟩
  cases reported _ _ stopped

end ReadThrough.Span
