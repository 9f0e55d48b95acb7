import ReadThrough.Proofs.Cache.Accounting

/-!
# The machine words of a cache suffice

As long as the sum of the charged sizes fits a signed word after every
insertion, each operation in machine words does what it does with plain
numbers.  No sum or difference leaves the range of its words, and there is an
entry to evict whenever the budget is exceeded.
-/

namespace ReadThrough.Cache.Word

variable {α : Type}

/-! ## Words that are small enough -/

theorem toSigned_of_lt {word : Nat} (small : (word : Int) < signedLimit) :
    toSigned word = word :=
  if_pos small

theorem toUnsigned_natCast (word : Nat) : toUnsigned (word : Int) = word := by
  rw [toUnsigned, if_neg (by omega), Int.toNat_natCast]

theorem signed_of_mem {fault : Fault} {value : Int} (above : -signedLimit ≤ value)
    (below : value < signedLimit) : signed fault value = .ok value :=
  if_pos ⟨above, below⟩

theorem ok_bind {β γ : Type} (value : β) (next : β → Except Fault γ) :
    (Except.ok value >>= next) = next value := rfl

theorem add_of_lt {left right : Nat} (small : ((left + right : Nat) : Int) < signedLimit) :
    add left right = .ok (left + right) := by
  rw [signedLimit] at small
  exact if_pos (by rw [unsignedLimit]; omega)

theorem subtract_of_le {left right : Nat} (le : right ≤ left) :
    subtract left right = .ok (left - right) :=
  if_pos le

/-! ## Operations -/

variable [ByteSize α]

theorem enforceFrom_eq {cache : Cache α} (accounted : cache.Accounted)
    {entries : List (Entry α)} (same : cache.entries = entries) :
    enforceFrom cache entries = .ok (cache.enforceFrom entries) := by
  induction entries generalizing cache with
  | nil =>
      have nothing : cache.allocated = 0 := by rw [accounted.allocated, same, total_nil]
      have fits : cache.exceeds = false :=
        (exceeds_eq_false_iff cache).mpr (Or.inr (nothing ▸ Nat.zero_le _))
      rw [enforceFrom, Cache.enforceFrom, fits]
      rfl
  | cons oldest rest ih =>
      have next := accounted.withoutOldest same
      have enough : oldest.size ≤ cache.allocated := by
        rw [accounted.allocated, same, total_cons]
        exact Nat.le_add_right _ _
      rw [enforceFrom, Cache.enforceFrom]
      split
      · rw [subtract_of_le enough]
        have later := ih next rfl
        rw [withoutOldest] at later
        rw [ok_bind]
        simp only [later, ok_bind]
        rfl
      · rfl

theorem signedLimit_pos : 0 < signedLimit := by decide

/-- The signed change takes the allocated memory exactly to the sum after storing. -/
theorem changeBy_exact {cache : Cache α} (accounted : cache.Accounted)
    (small : (cache.allocated : Int) < signedLimit) {key : String} {value : α}
    (fits : ((cache.store key value).allocated : Int) < signedLimit) :
    ∃ change, changeBy cache key (chargedSize key value) = .ok change ∧
      (cache.allocated : Int) + change = (cache.store key value).allocated := by
  have positive := signedLimit_pos
  have stored := accounted.allocated_store key value
  have sizeSmall : (chargedSize key value : Int) < signedLimit := by omega
  cases found : cache.find? key with
  | none =>
      have whole := accounted.allocated_unsplit found
      refine ⟨chargedSize key value, ?_, by omega⟩
      rw [changeBy, found, toSigned_of_lt sizeSmall]
  | some stale =>
      have split := accounted.allocated_split found
      have staleSmall : (stale.size : Int) < signedLimit := by omega
      refine ⟨chargedSize key value - stale.size, ?_, by omega⟩
      simp only [changeBy, found, toSigned_of_lt sizeSmall, toSigned_of_lt staleSmall]
      exact signed_of_mem (by omega) (by omega)

theorem put_eq_enforce_store {cache : Cache α} (accounted : cache.Accounted)
    (small : (cache.allocated : Int) < signedLimit) {key : String} {value : α}
    (fits : ((cache.store key value).allocated : Int) < signedLimit) :
    put cache key value = enforce (cache.store key value) := by
  have positive := signedLimit_pos
  have stored := accounted.allocated_store key value
  have sized : add key.utf8ByteSize (byteSize value) = .ok (chargedSize key value) :=
    add_of_lt (by rw [chargedSize] at stored; omega)
  obtain ⟨change, changed, sum⟩ := changeBy_exact accounted small fits
  have summed : signed .addition (toSigned cache.allocated + change) =
      .ok ((cache.store key value).allocated : Int) := by
    rw [toSigned_of_lt small, sum]
    exact signed_of_mem (by omega) fits
  rw [put, sized, ok_bind, changed, ok_bind, summed, ok_bind, toUnsigned_natCast]
  rfl

theorem put_eq {cache : Cache α} (accounted : cache.Accounted)
    (small : (cache.allocated : Int) < signedLimit) {key : String} {value : α}
    (fits : ((cache.store key value).allocated : Int) < signedLimit) :
    put cache key value = .ok (cache.put key value) := by
  rw [put_eq_enforce_store accounted small fits]
  exact enforceFrom_eq (accounted.store key value) rfl

theorem remove_eq {cache : Cache α} (accounted : cache.Accounted) (key : String) :
    remove cache key = .ok (cache.remove key) := by
  rw [remove, Cache.remove]
  cases found : cache.find? key with
  | none => rfl
  | some entry =>
      have split := accounted.allocated_split found
      have enough : entry.size ≤ cache.allocated := by omega
      simp only [subtract_of_le enough, ok_bind]
      rfl

theorem setBudget_eq {cache : Cache α} (accounted : cache.Accounted) (budget : Nat) :
    setBudget cache budget = .ok (cache.setBudget budget) := by
  have rebudgeted : { cache with budget }.Accounted :=
    ⟨accounted.distinct, accounted.charged, accounted.allocated⟩
  exact enforceFrom_eq rebudgeted rfl

/-! ## Sequences of operations -/

/-- The charged sizes fit a signed word right after the operation has inserted its value. -/
def Fits (cache : Cache α) : Operation α → Prop
  | .put key value => (total (cache.store key value).entries : Int) < signedLimit
  | _ => True

def FitsThroughout (cache : Cache α) : List (Operation α) → Prop
  | [] => True
  | operation :: operations =>
    Fits cache operation ∧ ∀ next evicted, perform cache operation = .ok (next, evicted) →
      FitsThroughout next operations

/-- What holds of a cache between two operations. -/
structure Settled (cache : Cache α) : Prop where
  accounted : cache.Accounted
  within : cache.WithinBudget
  small : (cache.allocated : Int) < signedLimit

theorem settled_empty (budget : Nat) : Settled (empty budget : Cache α) :=
  ⟨accounted_empty budget, withinBudget_empty budget, signedLimit_pos⟩

/-- An operation that fits has no fault and leaves everything settled. -/
theorem Settled.perform {cache : Cache α} (settled : Settled cache) {operation : Operation α}
    (fits : Fits cache operation) :
    Word.perform cache operation = .ok (cache.perform operation) ∧
      Settled (cache.perform operation).1 ∧
      ∀ eviction ∈ (cache.perform operation).2, eviction.cache.Accounted := by
  obtain ⟨accounted, within, small⟩ := settled
  have small_of_le {next : Cache α} {bound : Nat} (below : next.allocated ≤ bound)
      (fitting : (bound : Int) < signedLimit) : (next.allocated : Int) < signedLimit :=
    Int.lt_of_le_of_lt (Int.ofNat_le.mpr below) fitting
  cases operation with
  | put key value =>
      have stored := accounted.store key value
      have fitting : ((cache.store key value).allocated : Int) < signedLimit := by
        rw [stored.allocated]
        exact fits
      obtain ⟨final, within, below, evictions⟩ := stored.enforce
      exact ⟨put_eq accounted small fitting, ⟨final, within, small_of_le below fitting⟩,
        evictions⟩
  | get key =>
      have unchanged := allocated_get cache key
      exact ⟨rfl, ⟨accounted.get key, within.of_le (budget_get cache key) (Nat.le_of_eq unchanged),
        small_of_le (Nat.le_of_eq unchanged) small⟩, by simp [Cache.perform]⟩
  | remove key =>
      have less := allocated_remove_le cache key
      refine ⟨?_, ⟨accounted.remove key, within.of_le (budget_remove cache key) less,
        small_of_le less small⟩, by simp [Cache.perform]⟩
      rw [Word.perform, remove_eq accounted]
      rfl
  | flush => exact ⟨rfl, settled_empty _, by simp [Cache.perform]⟩
  | setBudget budget =>
      have rebudgeted : { cache with budget }.Accounted :=
        ⟨accounted.distinct, accounted.charged, accounted.allocated⟩
      obtain ⟨final, within, below, evictions⟩ := rebudgeted.enforce
      exact ⟨setBudget_eq accounted budget, ⟨final, within, small_of_le below small⟩, evictions⟩

/-- A sequence that fits throughout runs as it does with plain numbers. -/
theorem Settled.run {cache : Cache α} (settled : Settled cache) {operations : List (Operation α)}
    (fits : FitsThroughout cache operations) :
    Word.run cache operations = .ok (cache.run operations) ∧
      Settled (cache.run operations).1 ∧
      ∀ eviction ∈ (cache.run operations).2, eviction.cache.Accounted := by
  induction operations generalizing cache with
  | nil => exact ⟨rfl, settled, by simp [Cache.run]⟩
  | cons operation operations ih =>
      obtain ⟨performed, next, evictions⟩ := settled.perform fits.1
      obtain ⟨ran, final, later⟩ := ih next (fits.2 _ _ performed)
      refine ⟨?_, final, ?_⟩
      · rw [Word.run, performed, ok_bind]
        simp only [ran, ok_bind]
        rfl
      · intro eviction present
        rw [run_cons] at present
        rcases List.mem_append.mp present with now | afterwards
        · exact evictions eviction now
        · exact later eviction afterwards

/-- Whether a sequence fits can be told from the plain numbers alone. -/
theorem Settled.fitsThroughout_cons {cache : Cache α} (settled : Settled cache)
    {operation : Operation α} {operations : List (Operation α)} (fits : Fits cache operation)
    (later : Settled (cache.perform operation).1 →
      FitsThroughout (cache.perform operation).1 operations) :
    FitsThroughout cache (operation :: operations) := by
  obtain ⟨performs, next, -⟩ := settled.perform fits
  refine ⟨fits, fun reached evicted performed => ?_⟩
  have same := performs.symm.trans performed
  obtain rfl : (cache.perform operation).1 = reached := by rw [Except.ok.inj same]
  exact later next

theorem FitsThroughout.take {cache : Cache α} {operations before : List (Operation α)}
    (fits : FitsThroughout cache operations) (earlier : before <+: operations) :
    FitsThroughout cache before := by
  obtain ⟨after, rfl⟩ := earlier
  induction before generalizing cache with
  | nil => exact True.intro
  | cons operation before ih =>
      exact ⟨fits.1, fun next evicted performed => ih (fits.2 next evicted performed)⟩

/--
As long as the charged sizes fit a signed word after every insertion, no
operation on a new cache has a fault.  Between the operations no key stands
twice, every entry is charged with the size of its key and its value, their sum
is the allocated memory, and it is within the budget.  The sum is right at each
eviction, too.
-/
theorem accounting_exact (budget : Nat) (operations : List (Operation α))
    (fits : FitsThroughout (empty budget) operations) (before : List (Operation α))
    (earlier : before <+: operations) :
    ∃ cache evicted, run (empty budget) before = .ok (cache, evicted) ∧
      cache.Accounted ∧ cache.WithinBudget ∧
      (cache, evicted) = (empty budget).run before ∧
      ∀ eviction ∈ evicted, eviction.cache.Accounted := by
  obtain ⟨ran, ⟨accounted, within, -⟩, evictions⟩ := (settled_empty budget).run (fits.take earlier)
  exact ⟨_, _, ran, accounted, within, rfl, evictions⟩

/-- A value is replaced, the budget shrinks, and an entry that is beyond it comes and goes. -/
theorem accounting_exact_oversized :
    let operations : List (Operation String) :=
      [.put "a" "123", .put "b" "4", .put "a" "", .setBudget 2, .put "c" "56789", .remove "b"]
    FitsThroughout (empty 0) operations ∧
      ∃ cache evicted, run (empty 0) operations = .ok (cache, evicted) ∧
        cache.Accounted ∧ cache.WithinBudget ∧
        (cache, evicted) = (empty 0).run operations ∧
        ∀ eviction ∈ evicted, eviction.cache.Accounted := by
  intro operations
  have fits : FitsThroughout (empty 0) operations := by
    refine (settled_empty 0).fitsThroughout_cons (by unfold Fits; decide) fun first => ?_
    refine first.fitsThroughout_cons (by unfold Fits; decide) fun second => ?_
    refine second.fitsThroughout_cons (by unfold Fits; decide) fun third => ?_
    refine third.fitsThroughout_cons True.intro fun fourth => ?_
    refine fourth.fitsThroughout_cons (by unfold Fits; decide) fun fifth => ?_
    exact fifth.fitsThroughout_cons True.intro fun _ => True.intro
  exact ⟨fits, accounting_exact 0 operations fits operations List.prefix_rfl⟩

end ReadThrough.Cache.Word
