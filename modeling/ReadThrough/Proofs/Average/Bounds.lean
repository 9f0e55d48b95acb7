import Mathlib.Algebra.GroupWithZero.Nat
import Mathlib.Data.List.Induction
import Mathlib.Logic.Function.Iterate
import ReadThrough.Average

/-!
# Bounds of an average

However often the samples are halved, with the rounding that this brings, their
sum stays between the least and the greatest recorded value for each sample, and
so does the average.  As long as nothing is halved, the average is the mean of
all values, rounded down.
-/

namespace ReadThrough.Average

def addAll (average : Average) (values : List UInt32) : Average :=
  values.foldl add average

theorem addAll_concat (average : Average) (values : List UInt32) (last : UInt32) :
    average.addAll (values ++ [last]) = (average.addAll values).add last := by
  rw [addAll, List.foldl_append]
  rfl

theorem recorded_addAll (average : Average) (values : List UInt32) :
    (average.addAll values).recorded = average.recorded + values.length := by
  induction values generalizing average with
  | nil => rfl
  | cons value values ih =>
      rw [List.length_cons, ← Nat.add_assoc, Nat.add_right_comm]
      exact ih (average.add value)

/-! ## Making room -/

section Room

variable {average : Average} {value : Nat}

theorem makeRoom_of_crowded (crowded : average.crowded value = true) :
    average.makeRoom value = average.halve.makeRoom value := by
  rw [makeRoom, dif_pos crowded]

theorem makeRoom_of_free (free : average.crowded value = false) :
    average.makeRoom value = average := by
  rw [makeRoom, dif_neg (by simp [free])]

theorem crowded_eq_false_iff :
    average.crowded value = false ↔
      average.samples = 0 ∨
        average.samples < sampleLimit ∧ average.sum + value < sumLimit := by
  rw [crowded, Bool.and_eq_false_iff, Bool.or_eq_false_iff, decide_eq_false_iff_not,
    decide_eq_false_iff_not, decide_eq_false_iff_not, Nat.not_le, Nat.not_le, Nat.not_lt,
    Nat.le_zero]

theorem samples_pos_of_crowded (crowded : average.crowded value = true) :
    0 < average.samples := by
  rw [Average.crowded, Bool.and_eq_true, decide_eq_true_eq] at crowded
  exact crowded.1

/-- Once there is room, nothing is halved. -/
theorem crowded_makeRoom (average : Average) (value : Nat) :
    (average.makeRoom value).crowded value = false := by
  fun_induction makeRoom average value with
  | case1 average crowded ih => exact ih
  | case2 average free => simpa using free

/-- The samples are halved as often as their number can be halved, at most. -/
theorem makeRoom_eq_iterate (average : Average) (value : Nat) :
    ∃ rounds, average.makeRoom value = halve^[rounds] average ∧
      (rounds = 0 ∨ 2 ^ rounds ≤ 2 * average.samples) := by
  fun_induction makeRoom average value with
  | case1 average crowded ih =>
      obtain ⟨rounds, same, few⟩ := ih
      have positive := samples_pos_of_crowded crowded
      have halved : average.halve.samples = average.samples / 2 := rfl
      refine ⟨rounds + 1, same, Or.inr ?_⟩
      rw [Nat.pow_succ]
      rcases few with rfl | few <;> omega
  | case2 average free => exact ⟨0, rfl, Or.inl rfl⟩

end Room

/-! ## Between the least and the greatest value -/

/-- The sum of the samples is that of values from the least to the greatest one. -/
structure Within (low high : Nat) (average : Average) : Prop where
  above : low * average.samples ≤ average.sum
  below : average.sum ≤ high * average.samples

namespace Within

variable {low high : Nat} {average : Average}

theorem empty (low high : Nat) : Average.empty.Within low high :=
  ⟨Nat.le_refl 0, Nat.le_refl 0⟩

/-- Rounding down keeps both bounds, because they are multiples of the samples that are left. -/
theorem halve (within : average.Within low high) (positive : 0 < average.samples) :
    average.halve.Within low high where
  above := by
    refine (Nat.le_div_iff_mul_le positive).mpr ?_
    calc low * (average.samples / 2) * average.samples
        = low * average.samples * (average.samples / 2) := Nat.mul_right_comm ..
      _ ≤ average.sum * (average.samples / 2) := Nat.mul_le_mul_right _ within.above
  below := by
    refine Nat.div_le_of_le_mul ?_
    calc average.sum * (average.samples / 2)
        ≤ high * average.samples * (average.samples / 2) := Nat.mul_le_mul_right _ within.below
      _ = average.samples * (high * (average.samples / 2)) := by
          rw [Nat.mul_comm high, Nat.mul_assoc]

theorem makeRoom (within : average.Within low high) (value : Nat) :
    (average.makeRoom value).Within low high := by
  fun_induction Average.makeRoom average value with
  | case1 average crowded ih => exact ih (within.halve (samples_pos_of_crowded crowded))
  | case2 average free => exact within

theorem sum_eq_zero (within : average.Within low high) (none : average.samples = 0) :
    average.sum = 0 := by
  have below := within.below
  rw [none, Nat.mul_zero] at below
  exact Nat.le_zero.mp below

theorem add (within : average.Within low high) {value : UInt32} (above : low ≤ value.toNat)
    (below : value.toNat ≤ high) : (average.add value).Within low high := by
  obtain ⟨roomAbove, roomBelow⟩ := within.makeRoom value.toNat
  constructor
  · rw [Average.add, Nat.mul_succ]
    exact Nat.add_le_add roomAbove above
  · rw [Average.add, Nat.mul_succ]
    exact Nat.add_le_add roomBelow below

theorem addAll (within : average.Within low high) {values : List UInt32}
    (bounded : ∀ value ∈ values, low ≤ value.toNat ∧ value.toNat ≤ high) :
    (average.addAll values).Within low high := by
  induction values generalizing average with
  | nil => exact within
  | cons value values ih =>
      obtain ⟨above, below⟩ := bounded value List.mem_cons_self
      exact ih (within.add above below) fun other later =>
        bounded other (List.mem_cons_of_mem _ later)

/-- The average lies between the bounds, too. -/
theorem value (within : average.Within low high) (positive : 0 < average.samples) :
    low ≤ average.value ∧ average.value ≤ high := by
  refine ⟨(Nat.le_div_iff_mul_le positive).mpr within.above, Nat.div_le_of_le_mul ?_⟩
  rw [Nat.mul_comm]
  exact within.below

end Within

/-- Every sequence of values stays within the range of the words. -/
theorem within_words (values : List UInt32) :
    (Average.empty.addAll values).Within 0 (UInt32.size - 1) := by
  refine (Within.empty _ _).addAll fun value _ => ⟨Nat.zero_le _, ?_⟩
  exact Nat.le_pred_of_lt value.toNat_lt_size

/-! ## The range of the words -/

/-- After a value was recorded, there are at most so many samples, and their sum fits a word. -/
theorem add_fits {average : Average} {low high : Nat} (within : average.Within low high)
    (value : UInt32) :
    0 < (average.add value).samples ∧ (average.add value).samples ≤ sampleLimit ∧
      (average.add value).sum < sumLimit := by
  have limit : value.toNat < sumLimit := value.toNat_lt_size
  have room := within.makeRoom value.toNat
  rw [add]
  rcases crowded_eq_false_iff.mp (crowded_makeRoom average value.toNat) with none | ⟨few, fits⟩
  · rw [room.sum_eq_zero none, none, Nat.zero_add]
    exact ⟨Nat.one_pos, (by decide : 1 ≤ sampleLimit), limit⟩
  · exact ⟨Nat.succ_pos _, few, fits⟩

theorem samples_addAll {values : List UInt32} (nonempty : values ≠ []) :
    0 < (Average.empty.addAll values).samples ∧
      (Average.empty.addAll values).samples ≤ sampleLimit := by
  rcases List.eq_nil_or_concat values with rfl | ⟨before, last, rfl⟩
  · exact absurd rfl nonempty
  · rw [List.concat_eq_append, addAll_concat]
    obtain ⟨positive, few, -⟩ := add_fits (within_words before) last
    exact ⟨positive, few⟩

/-! ## Before anything is halved -/

/-- A few small values are all in sight. -/
theorem addAll_of_few {values : List UInt32} (few : values.length ≤ sampleLimit)
    (small : (values.map UInt32.toNat).sum < sumLimit) :
    Average.empty.addAll values =
      ⟨(values.map UInt32.toNat).sum, values.length, values.length⟩ := by
  induction values using List.reverseRecOn with
  | nil => rfl
  | append_singleton before last ih =>
      rw [List.length_append, List.length_singleton] at few
      have total : ((before ++ [last]).map UInt32.toNat).sum =
          (before.map UInt32.toNat).sum + last.toNat := by simp
      rw [total] at small
      have earlier := ih (Nat.le_of_succ_le few) (by omega)
      have free : (Average.empty.addAll before).crowded last.toNat = false := by
        rw [crowded_eq_false_iff, earlier]
        exact Or.inr ⟨few, small⟩
      rw [addAll_concat, add, makeRoom_of_free free, earlier, total, List.length_append,
        List.length_singleton]

end ReadThrough.Average
