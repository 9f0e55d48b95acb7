import Mathlib.Tactic.Linarith
import Mathlib.Tactic.Ring
import ReadThrough.Proofs.Average.Word

/-!
# An average forgets

What the past leaves in an average is the deviation of its sum from that of as
many samples of the value that is being recorded now.  Recording this value
keeps the deviation, and halving the samples halves it, rounded down.  Of each
hundred samples fifty are halved away, so the deviation soon is zero or minus
one, where it stays.
-/

namespace ReadThrough.Average

/-- By how much the sum exceeds that of as many samples of one value. -/
def deviation (average : Average) (value : Nat) : Int :=
  average.sum - value * average.samples

theorem deviation_halve {average : Average} (positive : 0 < average.samples) (value : Nat) :
    average.halve.deviation value =
      average.deviation value * (average.samples / 2 : Nat) / average.samples := by
  have nonzero : (average.samples : Int) ≠ 0 := by omega
  have split : average.deviation value * (average.samples / 2 : Nat) =
      average.sum * (average.samples / 2 : Nat) -
        value * (average.samples / 2 : Nat) * average.samples := by
    rw [deviation]
    ring
  rw [split, Int.sub_mul_ediv_right _ _ nonzero, deviation, halve]
  push_cast
  rfl

theorem deviation_add (average : Average) (value : UInt32) :
    (average.add value).deviation value.toNat =
      (average.makeRoom value.toNat).deviation value.toNat := by
  rw [deviation, deviation, add]
  push_cast
  ring

/-- The deviation lies between the powers of two of one level, of either sign. -/
structure Near (value level : Nat) (average : Average) : Prop where
  above : -2 ^ level ≤ average.deviation value
  below : average.deviation value < 2 ^ level

namespace Near

variable {value level : Nat} {average : Average}

/-- Rounding down makes a deviation of minus one stay, and no other one. -/
theorem halve (near : average.Near value level) (positive : 0 < average.samples) :
    average.halve.Near value (level - 1) := by
  obtain ⟨above, below⟩ := near
  have divisor : (0 : Int) < average.samples := by omega
  have half : 2 * ((average.samples / 2 : Nat) : Int) ≤ average.samples := by omega
  have share : (0 : Int) ≤ (average.samples / 2 : Nat) := Int.natCast_nonneg _
  have bound : (0 : Int) < 2 ^ (level - 1) := by positivity
  have twice : (2 : Int) ^ level ≤ 2 * 2 ^ (level - 1) := by
    cases level with
    | zero => decide
    | succ level => rw [Nat.add_sub_cancel, pow_succ, mul_comm]
  constructor
  · rw [deviation_halve positive]
    refine Int.le_ediv_of_mul_le divisor ?_
    calc -2 ^ (level - 1) * (average.samples : Int)
        ≤ -2 ^ (level - 1) * (2 * (average.samples / 2 : Nat)) :=
          mul_le_mul_of_nonpos_left half (by omega)
      _ = -(2 * 2 ^ (level - 1)) * (average.samples / 2 : Nat) := by ring
      _ ≤ average.deviation value * (average.samples / 2 : Nat) :=
          mul_le_mul_of_nonneg_right (by omega) share
  · rw [deviation_halve positive]
    refine Int.ediv_lt_of_lt_mul divisor ?_
    rcases share.eq_or_lt with noShare | someShare
    · rw [← noShare, mul_zero]
      exact mul_pos bound divisor
    · calc average.deviation value * (average.samples / 2 : Nat)
          < 2 * 2 ^ (level - 1) * (average.samples / 2 : Nat) :=
            mul_lt_mul_of_pos_right (by omega) someShare
        _ = 2 ^ (level - 1) * (2 * (average.samples / 2 : Nat)) := by ring
        _ ≤ 2 ^ (level - 1) * average.samples := mul_le_mul_of_nonneg_left half bound.le

/-- Each halving lowers the level, and halves away fifty samples at most. -/
theorem makeRoom (near : average.Near value level) (few : average.samples ≤ sampleLimit)
    (next : Nat) :
    ∃ rounds, (average.makeRoom next).Near value (level - rounds) ∧
      average.samples ≤ (average.makeRoom next).samples + 50 * rounds := by
  fun_induction Average.makeRoom average next generalizing level with
  | case1 average crowded ih =>
      have halved : average.halve.samples = average.samples / 2 := rfl
      have limit : average.samples ≤ 100 := few
      obtain ⟨rounds, lower, lost⟩ := ih (near.halve (samples_pos_of_crowded crowded))
        (halved ▸ Nat.le_trans (Nat.div_le_self _ _) few)
      refine ⟨rounds + 1, ?_, by omega⟩
      rw [Nat.add_comm, ← Nat.sub_sub]
      exact lower
  | case2 average free => exact ⟨0, near, Nat.le_refl _⟩

end Near

theorem near_add {average : Average} {value : UInt32} {level : Nat}
    (near : average.Near value.toNat level) (few : average.samples ≤ sampleLimit) :
    ∃ rounds, (average.add value).Near value.toNat (level - rounds) ∧
      average.samples + 1 ≤ (average.add value).samples + 50 * rounds := by
  obtain ⟨rounds, ⟨above, below⟩, lost⟩ := near.makeRoom few value.toNat
  have counted : (average.add value).samples = (average.makeRoom value.toNat).samples + 1 := rfl
  refine ⟨rounds, ⟨?_, ?_⟩, by omega⟩
  · rw [deviation_add]
    exact above
  · rw [deviation_add]
    exact below

/-! ## Recording one value -/

/-- Each record adds a sample, and each lost level takes fifty samples away at most. -/
theorem near_addAll {average : Average} {value : UInt32} {level : Nat}
    (within : average.Within 0 (UInt32.size - 1)) (few : average.samples ≤ sampleLimit)
    (near : average.Near value.toNat level) (times : Nat) :
    ∃ rounds,
      (average.addAll (List.replicate times value)).Near value.toNat (level - rounds) ∧
      average.samples + times ≤
        (average.addAll (List.replicate times value)).samples + 50 * rounds := by
  induction times generalizing average level with
  | zero => exact ⟨0, near, Nat.le_refl _⟩
  | succ times ih =>
      obtain ⟨first, lower, left⟩ := near_add near few
      have nextWithin := within.add (Nat.zero_le _) (Nat.le_pred_of_lt value.toNat_lt_size)
      obtain ⟨later, lowest, leftLater⟩ := ih nextWithin (add_fits within value).2.1 lower
      refine ⟨first + later, ?_, ?_⟩
      · rw [← Nat.sub_sub]
        exact lowest
      · change _ ≤ ((average.add value).addAll (List.replicate times value)).samples + _
        omega

/-- A hundred samples of 32 bits are below this level. -/
def highestLevel : Nat := 39

theorem near_of_within {average : Average} (within : average.Within 0 (UInt32.size - 1))
    (few : average.samples ≤ sampleLimit) (value : UInt32) :
    average.Near value.toNat highestLevel := by
  have limit : value.toNat < 2 ^ 32 := value.toNat_lt
  have below : average.sum ≤ (2 ^ 32 - 1) * average.samples := within.below
  have count : average.samples ≤ 100 := few
  have product : value.toNat * average.samples ≤ 2 ^ 32 * 100 :=
    Nat.mul_le_mul limit.le count
  constructor
  · rw [deviation, highestLevel]
    omega
  · rw [deviation, highestLevel]
    omega

/-- A deviation of zero or minus one is rounded off. -/
theorem Near.value {average : Average} {value : Nat} (near : average.Near value 0)
    (positive : 0 < average.samples) : average.value = value ∨ average.value + 1 = value := by
  obtain ⟨above, below⟩ := near
  rw [deviation, pow_zero] at above below
  have zeroOrLess :
      average.sum = value * average.samples ∨ average.sum + 1 = value * average.samples := by
    omega
  rcases zeroOrLess with same | less
  · left
    rw [Average.value, same, Nat.mul_div_cancel _ positive]
  · right
    cases value with
    | zero => simp at less
    | succ value =>
        rw [Nat.succ_mul] at less
        refine congrArg (· + 1) (Nat.div_eq_of_lt_le ?_ ?_)
        · omega
        · rw [Nat.succ_mul]
          omega

/-! ## Three thousand records -/

theorem addAll_append (average : Average) (before after : List UInt32) :
    average.addAll (before ++ after) = (average.addAll before).addAll after :=
  List.foldl_append

theorem samples_addAll_le (values : List UInt32) :
    (Average.empty.addAll values).samples ≤ sampleLimit := by
  rcases eq_or_ne values [] with rfl | nonempty
  · exact Nat.zero_le sampleLimit
  · exact (samples_addAll nonempty).2

/-- Fewer records than three thousand exhaust the levels. -/
theorem near_after_history (history : List UInt32) (value : UInt32) (further : Nat) :
    (Average.empty.addAll (history ++ List.replicate (3000 + further) value)).Near
      value.toNat 0 := by
  have within := within_words history
  have few := samples_addAll_le history
  obtain ⟨rounds, near, left⟩ :=
    near_addAll within few (near_of_within within few value) (3000 + further)
  have fewLeft := samples_addAll_le (history ++ List.replicate (3000 + further) value)
  have limit : sampleLimit = 100 := rfl
  rw [addAll_append] at fewLeft ⊢
  have exhausted : highestLevel - rounds = 0 := by
    rw [highestLevel]
    omega
  exact exhausted ▸ near

namespace Word

/-- Whatever was recorded before, after three thousand records of one value the average is
this value or, by rounding, one less; and it stays so with each further record. -/
theorem forgets_the_past (history : List UInt32) (value : UInt32) (further : Nat) :
    ∃ word, empty.addAll (history ++ List.replicate (3000 + further) value) = .ok word ∧
      (word.value = value ∨ 0 < value ∧ word.value = value - 1) := by
  let values := history ++ List.replicate (3000 + further) value
  obtain ⟨word, ran, holds⟩ := addAll_empty values
  have recorded : values ≠ [] := by
    simp [values]
  refine ⟨word, ran, ?_⟩
  rcases (near_after_history history value further).value (samples_addAll recorded).1 with
    same | less
  · left
    exact UInt32.toNat_inj.mp (holds.value.trans same)
  · right
    have total : word.value.toNat + 1 = value.toNat := by rw [holds.value, less]
    have positive : (1 : UInt32) ≤ value := by
      rw [UInt32.le_iff_toNat_le]
      exact total ▸ Nat.le_add_left _ _
    refine ⟨?_, UInt32.toNat_inj.mp ?_⟩
    · rw [UInt32.lt_iff_toNat_lt]
      exact total ▸ Nat.succ_pos _
    · rw [UInt32.toNat_sub_of_le _ _ positive, ← total]
      rfl

end Word

end ReadThrough.Average
