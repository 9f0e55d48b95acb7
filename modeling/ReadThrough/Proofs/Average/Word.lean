import ReadThrough.Average.Word
import ReadThrough.Proofs.Average.Bounds

/-!
# The machine words of an average suffice

Recording a value in machine words does what it does with plain numbers.  No
sum and no product leaves the range of its words, nothing is divided by zero,
and no share of a sum is cut off.  Only the number of all recorded values wraps
around.
-/

namespace ReadThrough.Average.Word

/-! ## Halves of a word -/

theorem toNat_pack (sum samples : UInt32) :
    (pack sum samples).toNat = sum.toNat * 2 ^ 32 + samples.toNat := by
  have sumLimit := sum.toNat_lt
  have amount : (32 : UInt64).toNat % 64 = 32 := rfl
  have shifted : (sum.toUInt64 <<< 32).toNat = sum.toNat <<< 32 := by
    rw [UInt64.toNat_shiftLeft, UInt32.toNat_toUInt64, amount]
    refine Nat.mod_eq_of_lt ?_
    rw [Nat.shiftLeft_eq]
    omega
  rw [pack, UInt64.toNat_or, shifted, UInt32.toNat_toUInt64,
    ← Nat.shiftLeft_add_eq_or_of_lt samples.toNat_lt, Nat.shiftLeft_eq]

@[simp]
theorem sum_pack (sum samples : UInt32) (recorded : UInt64) :
    (⟨pack sum samples, recorded⟩ : Word).sum = sum := by
  have sumLimit := sum.toNat_lt
  have samplesLimit := samples.toNat_lt
  have amount : (32 : UInt64).toNat % 64 = 32 := rfl
  refine UInt32.toNat_inj.mp ?_
  rw [Word.sum, UInt64.toNat_toUInt32, UInt64.toNat_shiftRight, toNat_pack, amount,
    Nat.shiftRight_eq_div_pow]
  omega

@[simp]
theorem samples_pack (sum samples : UInt32) (recorded : UInt64) :
    (⟨pack sum samples, recorded⟩ : Word).samples = samples := by
  have samplesLimit := samples.toNat_lt
  refine UInt32.toNat_inj.mp ?_
  rw [Word.samples, UInt64.toNat_toUInt32, toNat_pack]
  omega

/-! ## Operations that stay in range -/

theorem ok_bind {β γ : Type} (value : β) (next : β → Except Fault γ) :
    (Except.ok value >>= next) = next value := rfl

theorem plus_exact {left right : UInt32} (fits : left.toNat + right.toNat < sumLimit) :
    plus left right = .ok (left + right) ∧ (left + right).toNat = left.toNat + right.toNat := by
  have inRange : overflows left right = false := decide_eq_false (Nat.not_le.mpr fits)
  rw [plus, inRange]
  exact ⟨rfl, (UInt32.toNat_add left right).trans (Nat.mod_eq_of_lt fits)⟩

theorem times_exact {left right : UInt64} (fits : left.toNat * right.toNat < UInt64.size) :
    times left right = .ok (left * right) ∧ (left * right).toNat = left.toNat * right.toNat :=
  ⟨if_pos fits, (UInt64.toNat_mul left right).trans (Nat.mod_eq_of_lt fits)⟩

theorem dividedBy_exact (left : UInt64) {right : UInt64} (positive : 0 < right.toNat) :
    dividedBy left right = .ok (left / right) := by
  refine if_neg ?_
  rintro rfl
  cases positive

/-- The product fits 64 bits, and the quotient is at most the sum. -/
theorem halfShare_exact (sum : UInt32) {samples : UInt32} (positive : 0 < samples.toNat) :
    ∃ share, halfShare sum samples = .ok share ∧
      share.toNat = sum.toNat * (samples.toNat / 2) / samples.toNat := by
  have sumLimit := sum.toNat_lt
  have samplesLimit := samples.toNat_lt
  have half : (samples / 2).toNat = samples.toNat / 2 := UInt32.toNat_div samples 2
  have halfLimit : samples.toNat / 2 < 2 ^ 32 := by omega
  have fits : sum.toUInt64.toNat * (samples / 2).toUInt64.toNat < UInt64.size := by
    rw [UInt32.toNat_toUInt64, UInt32.toNat_toUInt64, half]
    exact Nat.mul_lt_mul'' sumLimit halfLimit
  obtain ⟨multiplied, product⟩ := times_exact fits
  rw [UInt32.toNat_toUInt64, UInt32.toNat_toUInt64, half] at product
  have divisor : samples.toUInt64.toNat = samples.toNat := UInt32.toNat_toUInt64 samples
  have less : sum.toNat * (samples.toNat / 2) / samples.toNat ≤ sum.toNat := by
    refine Nat.div_le_of_le_mul ?_
    rw [Nat.mul_comm samples.toNat]
    exact Nat.mul_le_mul_left _ (Nat.div_le_self _ _)
  refine ⟨(sum.toUInt64 * (samples / 2).toUInt64 / samples.toUInt64).toUInt32, ?_, ?_⟩
  · rw [halfShare, multiplied, ok_bind, dividedBy_exact _ (divisor ▸ positive), ok_bind]
    rfl
  · rw [UInt64.toNat_toUInt32, UInt64.toNat_div, product, divisor]
    exact Nat.mod_eq_of_lt (Nat.lt_of_le_of_lt less sumLimit)

theorem crowded_eq (sum samples value : UInt32) (recorded : Nat) :
    crowded sum samples value =
      Average.crowded ⟨sum.toNat, samples.toNat, recorded⟩ value.toNat := by
  have positive : (0 < samples) = (0 < samples.toNat) := propext UInt32.lt_iff_toNat_lt
  have many : (UInt32.ofNat sampleLimit ≤ samples) = (sampleLimit ≤ samples.toNat) :=
    propext UInt32.le_iff_toNat_le
  simp only [crowded, Average.crowded, positive, many]
  rfl

/-- The samples are halved in words as they are with plain numbers. -/
theorem makeRoom_exact (sum samples value : UInt32) (recorded : Nat) :
    ∃ roomSum roomSamples, makeRoom sum samples value = .ok (roomSum, roomSamples) ∧
      Average.makeRoom ⟨sum.toNat, samples.toNat, recorded⟩ value.toNat =
        ⟨roomSum.toNat, roomSamples.toNat, recorded⟩ := by
  fun_induction makeRoom sum samples value with
  | case1 sum samples crowded share shared ih =>
      rw [crowded_eq sum samples value recorded] at crowded
      obtain ⟨exact, same, exactShare⟩ := halfShare_exact sum (samples_pos_of_crowded crowded)
      obtain rfl : share = exact := Except.ok.inj (shared.symm.trans same)
      obtain ⟨roomSum, roomSamples, made, room⟩ := ih
      refine ⟨roomSum, roomSamples, made, ?_⟩
      rw [makeRoom_of_crowded crowded, ← room, exactShare]
      rfl
  | case2 sum samples crowded fault failed =>
      rw [crowded_eq sum samples value recorded] at crowded
      obtain ⟨share, same, -⟩ := halfShare_exact sum (samples_pos_of_crowded crowded)
      cases failed.symm.trans same
  | case3 sum samples free =>
      rw [crowded_eq sum samples value recorded, Bool.not_eq_true] at free
      exact ⟨sum, samples, rfl, makeRoom_of_free free⟩

/-! ## Recording values -/

/-- The words hold the average, except that the number of all recorded values wraps around. -/
structure Holds (word : Word) (average : Average) : Prop where
  sum : word.sum.toNat = average.sum
  samples : word.samples.toNat = average.samples
  recorded : word.recorded.toNat = average.recorded % UInt64.size

theorem holds_empty : empty.Holds Average.empty := ⟨rfl, rfl, rfl⟩

namespace Holds

variable {word : Word} {average : Average} {low high : Nat}

theorem makeRoom (holds : word.Holds average) (value : UInt32) :
    ∃ sum samples, Word.makeRoom word.sum word.samples value = .ok (sum, samples) ∧
      average.makeRoom value.toNat = ⟨sum.toNat, samples.toNat, average.recorded⟩ := by
  obtain ⟨sum, samples, made, room⟩ :=
    makeRoom_exact word.sum word.samples value average.recorded
  rw [holds.sum, holds.samples] at room
  exact ⟨sum, samples, made, room⟩

theorem add (holds : word.Holds average) (within : average.Within low high) (value : UInt32) :
    ∃ next, word.add value = .ok next ∧ next.Holds (average.add value) := by
  obtain ⟨sum, samples, made, room⟩ := holds.makeRoom value
  obtain ⟨-, few, fits⟩ := add_fits within value
  have added : average.add value =
      ⟨sum.toNat + value.toNat, samples.toNat + 1, average.recorded + 1⟩ := by
    rw [Average.add, room]
  rw [added] at few fits ⊢
  -- Room was made for the value, so neither addition leaves its word.
  have countable : samples.toNat + (1 : UInt32).toNat < sumLimit :=
    Nat.lt_of_le_of_lt few (by decide)
  obtain ⟨summed, total⟩ := plus_exact fits
  obtain ⟨counted, number⟩ := plus_exact countable
  refine ⟨⟨pack (sum + value) (samples + 1), word.recorded + 1⟩, ?_, ?_, ?_, ?_⟩
  · rw [Word.add, made, ok_bind]
    dsimp only
    rw [summed, ok_bind, counted, ok_bind]
    rfl
  · rw [sum_pack, total]
  · rw [samples_pack, number]
    rfl
  · rw [UInt64.toNat_add, holds.recorded]
    exact Nat.mod_add_mod _ _ _

theorem addAll (holds : word.Holds average) (within : average.Within 0 (UInt32.size - 1))
    (values : List UInt32) :
    ∃ final, word.addAll values = .ok final ∧ final.Holds (average.addAll values) := by
  induction values generalizing word average with
  | nil => exact ⟨word, rfl, holds⟩
  | cons value values ih =>
      obtain ⟨next, added, nextHolds⟩ := holds.add within value
      have nextWithin := within.add (Nat.zero_le _) (Nat.le_pred_of_lt value.toNat_lt_size)
      obtain ⟨final, goesOn, finalHolds⟩ := ih nextHolds nextWithin
      refine ⟨final, ?_, finalHolds⟩
      rw [Word.addAll, List.foldlM_cons, added, ok_bind]
      exact goesOn

theorem value (holds : word.Holds average) : word.value.toNat = average.value := by
  rw [Word.value, Average.value, ← holds.sum, ← holds.samples]
  split
  case isTrue none =>
    rw [none]
    exact (Nat.div_zero _).symm
  case isFalse divisible => exact UInt32.toNat_div _ _

end Holds

theorem addAll_empty (values : List UInt32) :
    ∃ word, empty.addAll values = .ok word ∧ word.Holds (Average.empty.addAll values) :=
  holds_empty.addAll (Within.empty _ _) values

/-! ## The halving ends -/

/-- So many times the samples are halved until the value fits. -/
def HalvedFor (word : Word) (value : UInt32) (rounds : Nat) : Prop :=
  ∃ sum samples, makeRoom word.sum word.samples value = .ok (sum, samples) ∧
    crowded sum samples value = false ∧
    halve^[rounds] word.average = ⟨sum.toNat, samples.toNat, word.recorded.toNat⟩

theorem exists_halvedFor (word : Word) (value : UInt32) :
    ∃ rounds, word.HalvedFor value rounds ∧
      (rounds = 0 ∨ 2 ^ rounds ≤ 2 * word.samples.toNat) := by
  obtain ⟨sum, samples, made, room⟩ :=
    makeRoom_exact word.sum word.samples value word.recorded.toNat
  obtain ⟨rounds, same, few⟩ := makeRoom_eq_iterate word.average value.toNat
  refine ⟨rounds, ⟨sum, samples, made, ?_, same.symm.trans room⟩, few⟩
  rw [crowded_eq sum samples value word.recorded.toNat, ← room]
  exact crowded_makeRoom word.average value.toNat

theorem rounds_le {samples rounds : Nat} (few : samples ≤ sampleLimit)
    (halvable : rounds = 0 ∨ 2 ^ rounds ≤ 2 * samples) : rounds ≤ 7 := by
  rcases halvable with rfl | halvable
  · exact Nat.zero_le 7
  · have limit : 2 ^ rounds < 2 ^ 8 := by
      calc 2 ^ rounds ≤ 2 * samples := halvable
        _ ≤ 2 * sampleLimit := Nat.mul_le_mul_left 2 few
        _ < 2 ^ 8 := by decide
    exact Nat.lt_succ_iff.mp ((Nat.pow_lt_pow_iff_right (by decide)).mp limit)

/-! ## Within the recorded values -/

/-- Whatever values are recorded, no operation leaves the range of its words or divides by zero,
and the halving ends after seven rounds at most.  Then the sum and the average lie between those
of the least and the greatest value, and the average is the mean while nothing was halved. -/
theorem stays_within_recorded {values : List UInt32} (nonempty : values ≠ []) :
    (∃ word least greatest,
      empty.addAll values = .ok word ∧
      (values.map UInt32.toNat).min? = some least ∧
      (values.map UInt32.toNat).max? = some greatest ∧
      1 ≤ word.samples.toNat ∧ word.samples.toNat ≤ 100 ∧
      least * word.samples.toNat ≤ word.sum.toNat ∧
      word.sum.toNat ≤ greatest * word.samples.toNat ∧
      least ≤ word.value.toNat ∧ word.value.toNat ≤ greatest ∧
      (values.length ≤ 100 → (values.map UInt32.toNat).sum < 2 ^ 32 →
        word.value.toNat = (values.map UInt32.toNat).sum / values.length) ∧
      word.recorded.toNat = values.length % 2 ^ 64) ∧
    ∀ before value after, values = before ++ value :: after →
      ∃ word rounds, empty.addAll before = .ok word ∧ word.HalvedFor value rounds ∧
        rounds ≤ 7 := by
  refine ⟨?_, ?_⟩
  · have listed : values.map UInt32.toNat ≠ [] := by simpa using nonempty
    let least := (values.map UInt32.toNat).min listed
    let greatest := (values.map UInt32.toNat).max listed
    have within : (Average.empty.addAll values).Within least greatest := by
      refine (Within.empty least greatest).addAll fun value recorded => ?_
      have mapped : value.toNat ∈ values.map UInt32.toNat := List.mem_map_of_mem recorded
      exact ⟨List.min_le_of_mem mapped, List.le_max_of_mem mapped⟩
    obtain ⟨word, ran, holds⟩ := addAll_empty values
    obtain ⟨positive, few⟩ := samples_addAll nonempty
    obtain ⟨above, below⟩ := within.value positive
    refine ⟨word, least, greatest, ran, List.min?_eq_some_min listed,
      List.max?_eq_some_max listed, ?_⟩
    rw [holds.samples, holds.sum, holds.value, holds.recorded, recorded_addAll]
    refine ⟨positive, few, within.above, within.below, above, below, ?_, ?_⟩
    · intro few small
      rw [addAll_of_few few small, Average.value]
    · exact congrArg (· % UInt64.size) (Nat.zero_add values.length)
  · rintro before value after -
    obtain ⟨word, ran, holds⟩ := addAll_empty before
    obtain ⟨rounds, halved, halvable⟩ := exists_halvedFor word value
    refine ⟨word, rounds, ran, halved, rounds_le ?_ halvable⟩
    rw [holds.samples]
    rcases eq_or_ne before [] with rfl | earlier
    · exact Nat.zero_le sampleLimit
    · exact (samples_addAll earlier).2

/-- Ten, twenty and thirty have the mean twenty; a sum beyond the range is halved. -/
theorem stays_within_recorded_halved :
    ([10, 20, 30] : List UInt32) ≠ [] ∧
    (∃ word, empty.addAll [10, 20, 30] = .ok word ∧ word.value.toNat = 20) ∧
    (∃ word, empty.addAll [4294967290, 5, 10] = .ok word ∧ 5 ≤ word.value.toNat ∧
      word.value.toNat ≤ 4294967290) ∧
    ∃ word rounds, empty.addAll [4294967290, 5] = .ok word ∧ word.HalvedFor 10 rounds ∧
      rounds ≤ 7 := by
  have tens : ([10, 20, 30] : List UInt32) ≠ [] := by decide
  have large : ([4294967290, 5, 10] : List UInt32) ≠ [] := by decide
  refine ⟨tens, ?_, ?_, ?_⟩
  · obtain ⟨word, least, greatest, ran, -, -, -, -, -, -, -, -, mean, -⟩ :=
      (stays_within_recorded tens).1
    exact ⟨word, ran, mean (by decide) (by decide)⟩
  · obtain ⟨word, least, greatest, ran, minimum, maximum, -, -, -, -, above, below, -⟩ :=
      (stays_within_recorded large).1
    cases minimum
    cases maximum
    exact ⟨word, ran, above, below⟩
  · exact (stays_within_recorded large).2 [4294967290, 5] 10 [] rfl

end ReadThrough.Average.Word
