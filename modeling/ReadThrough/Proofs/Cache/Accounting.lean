import Mathlib.Algebra.GroupWithZero.Nat
import Mathlib.Data.List.Nodup
import ReadThrough.Proofs.Cache.Operation

/-!
# Accounting of a cache

The allocated memory of a cache is the sum of the charged sizes of its entries.
Every operation keeps this equation, also at each single eviction, and leaves
the cache within its budget.
-/

namespace ReadThrough.Cache

variable {α : Type}

/-! ## Sums of charged sizes -/

def total (entries : List (Entry α)) : Nat := (entries.map Entry.size).sum

@[simp]
theorem total_nil : total ([] : List (Entry α)) = 0 := rfl

@[simp]
theorem total_cons (entry : Entry α) (entries : List (Entry α)) :
    total (entry :: entries) = entry.size + total entries := by
  simp [total]

@[simp]
theorem total_append (first second : List (Entry α)) :
    total (first ++ second) = total first + total second := by
  simp [total]

theorem total_perm {first second : List (Entry α)} (permuted : first.Perm second) :
    total first = total second :=
  (permuted.map Entry.size).sum_nat

theorem others_of_absent {entries : List (Entry α)} {key : String}
    (absent : ∀ entry ∈ entries, entry.key ≠ key) : others entries key = entries :=
  List.filter_eq_self.mpr fun entry present => by simpa using absent entry present

theorem key_not_mem_others (entries : List (Entry α)) (key : String) :
    key ∉ (others entries key).map Entry.key := by
  simp [others]

/-- An entry that is found stands once among the entries, beside the others. -/
theorem cons_others_perm {entries : List (Entry α)} (distinct : (entries.map Entry.key).Nodup)
    {key : String} {entry : Entry α}
    (found : entries.find? (fun entry => entry.key = key) = some entry) :
    (entry :: others entries key).Perm entries := by
  induction entries with
  | nil => cases found
  | cons first rest ih =>
      obtain ⟨unique, distinctRest⟩ := List.nodup_cons.mp distinct
      by_cases same : first.key = key
      · obtain rfl : first = entry := by simpa [same] using found
        have absent : ∀ other ∈ rest, other.key ≠ key := by
          rintro other present rfl
          exact unique (List.mem_map.mpr ⟨other, present, same.symm⟩)
        have restOnly : others (first :: rest) key = rest := by
          rw [others, List.filter_cons_of_neg (by simpa using same)]
          exact others_of_absent absent
        rw [restOnly]
      · have later : rest.find? (fun entry => entry.key = key) = some entry := by
          simpa [same] using found
        have kept : others (first :: rest) key = first :: others rest key :=
          List.filter_cons_of_pos (by simpa using same)
        rw [kept]
        exact (List.Perm.swap first entry _).trans ((ih distinctRest later).cons first)

/-! ## The invariant -/

/-- No key stands twice, every entry is charged with its size, and the sum is kept. -/
structure Accounted [ByteSize α] (cache : Cache α) : Prop where
  distinct : (cache.entries.map Entry.key).Nodup
  charged : ∀ entry ∈ cache.entries, entry.size = chargedSize entry.key entry.value
  allocated : cache.allocated = total cache.entries

/-- There is no budget, or it is not exceeded. -/
def WithinBudget (cache : Cache α) : Prop :=
  cache.budget = 0 ∨ cache.allocated ≤ cache.budget

theorem exceeds_eq_false_iff (cache : Cache α) : cache.exceeds = false ↔ cache.WithinBudget := by
  simp [exceeds, WithinBudget, or_iff_not_imp_left]

theorem WithinBudget.of_le {cache next : Cache α} (within : cache.WithinBudget)
    (budget : next.budget = cache.budget) (allocated : next.allocated ≤ cache.allocated) :
    next.WithinBudget := by
  rw [WithinBudget, budget]
  exact within.imp_right (Nat.le_trans allocated)

@[simp]
theorem budget_get (cache : Cache α) (key : String) : (cache.get key).2.budget = cache.budget := by
  rw [get]
  split <;> rfl

@[simp]
theorem allocated_get (cache : Cache α) (key : String) :
    (cache.get key).2.allocated = cache.allocated := by
  rw [get]
  split <;> rfl

@[simp]
theorem budget_remove (cache : Cache α) (key : String) :
    (cache.remove key).2.budget = cache.budget := by
  rw [remove]
  split <;> rfl

theorem allocated_remove_le (cache : Cache α) (key : String) :
    (cache.remove key).2.allocated ≤ cache.allocated := by
  rw [remove]
  split
  · exact Nat.sub_le _ _
  · exact Nat.le_refl _

/-- A cache without entries is accounted and within any budget. -/
theorem accounted_empty [ByteSize α] (budget : Nat) : (empty budget : Cache α).Accounted :=
  ⟨List.nodup_nil, by simp [empty], rfl⟩

theorem withinBudget_empty (budget : Nat) : (empty budget : Cache α).WithinBudget :=
  Or.inr (Nat.zero_le _)

namespace Accounted

variable [ByteSize α] {cache : Cache α} (accounted : cache.Accounted)

include accounted

theorem distinct_others (key : String) : ((others cache.entries key).map Entry.key).Nodup :=
  accounted.distinct.sublist (List.filter_sublist.map Entry.key)

theorem charged_others {key : String} {entry : Entry α}
    (present : entry ∈ others cache.entries key) :
    entry.size = chargedSize entry.key entry.value :=
  accounted.charged entry (List.mem_of_mem_filter present)

/-- The entry of a key and the other entries make up the allocated memory. -/
theorem allocated_split {key : String} {entry : Entry α} (found : cache.find? key = some entry) :
    cache.allocated = entry.size + total (others cache.entries key) := by
  rw [accounted.allocated, ← total_cons, total_perm (cons_others_perm accounted.distinct found)]

theorem allocated_unsplit {key : String} (missing : cache.find? key = none) :
    cache.allocated = total (others cache.entries key) := by
  have absent : ∀ entry ∈ cache.entries, entry.key ≠ key := by
    simpa [find?] using missing
  rw [accounted.allocated, others_of_absent absent]

/-- Storing replaces the entry of the key in the sum, too. -/
theorem allocated_store (key : String) (value : α) :
    (cache.store key value).allocated =
      total (others cache.entries key) + chargedSize key value := by
  cases found : cache.find? key with
  | none =>
      have whole := accounted.allocated_unsplit found
      simp only [store, found, Option.map_none, Option.getD_none]
      omega
  | some entry =>
      have split := accounted.allocated_split found
      simp only [store, found, Option.map_some, Option.getD_some]
      omega

theorem store (key : String) (value : α) : (cache.store key value).Accounted where
  distinct := by
    rw [Cache.store, List.map_append, List.map_singleton]
    refine List.nodup_append.mpr ⟨accounted.distinct_others key, List.nodup_singleton _, ?_⟩
    rintro other present _ stored rfl
    rw [List.mem_singleton.mp stored] at present
    exact key_not_mem_others _ _ present
  charged := by
    intro entry present
    rcases List.mem_append.mp present with old | new
    · exact accounted.charged_others old
    · rw [List.mem_singleton.mp new]
  allocated := by
    rw [accounted.allocated_store, Cache.store, total_append, total_cons, total_nil, Nat.add_zero]

theorem withoutOldest {oldest : Entry α} {rest : List (Entry α)}
    (entries : cache.entries = oldest :: rest) :
    (cache.withoutOldest oldest rest).Accounted := by
  obtain ⟨distinct, charged, allocated⟩ := accounted
  rw [entries] at distinct charged allocated
  refine ⟨(List.nodup_cons.mp distinct).2,
    fun entry present => charged entry (List.mem_cons_of_mem _ present), ?_⟩
  rw [total_cons] at allocated
  change cache.allocated - oldest.size = total rest
  omega

/-- Eviction keeps the equation at every single entry and ends within the budget. -/
theorem enforceFrom {entries : List (Entry α)} (same : cache.entries = entries) :
    (cache.enforceFrom entries).1.Accounted ∧ (cache.enforceFrom entries).1.WithinBudget ∧
      (cache.enforceFrom entries).1.allocated ≤ cache.allocated ∧
      ∀ eviction ∈ (cache.enforceFrom entries).2, eviction.cache.Accounted := by
  induction entries generalizing cache with
  | nil =>
      have unchanged : { cache with entries := [] } = cache := by rw [← same]
      rw [Cache.enforceFrom, unchanged]
      have nothing : cache.allocated = 0 := by rw [accounted.allocated, same, total_nil]
      exact ⟨accounted, Or.inr (nothing ▸ Nat.zero_le _), Nat.le_refl _, by simp⟩
  | cons oldest rest ih =>
      rw [Cache.enforceFrom]
      split
      · have next := accounted.withoutOldest same
        obtain ⟨final, within, below, evictions⟩ := ih next rfl
        refine ⟨final, within, Nat.le_trans below (Nat.sub_le _ _), ?_⟩
        intro eviction present
        rcases List.mem_cons.mp present with rfl | later
        · exact next
        · exact evictions eviction later
      · rename_i fits
        have unchanged : { cache with entries := oldest :: rest } = cache := by rw [← same]
        rw [unchanged]
        exact ⟨accounted, (exceeds_eq_false_iff cache).mp (by simpa using fits),
          Nat.le_refl _, by simp⟩

theorem get (key : String) : (cache.get key).2.Accounted := by
  rw [Cache.get]
  cases found : cache.find? key with
  | none => exact ⟨accounted.distinct, accounted.charged, accounted.allocated⟩
  | some entry =>
      have permuted : (others cache.entries key ++ [entry]).Perm cache.entries :=
        (List.perm_append_singleton _ _).trans (cons_others_perm accounted.distinct found)
      exact ⟨(permuted.map Entry.key).nodup_iff.mpr accounted.distinct,
        fun other present => accounted.charged other (permuted.mem_iff.mp present),
        accounted.allocated.trans (total_perm permuted).symm⟩

theorem remove (key : String) : (cache.remove key).2.Accounted := by
  rw [Cache.remove]
  cases found : cache.find? key with
  | none => exact ⟨accounted.distinct, accounted.charged, accounted.allocated⟩
  | some entry =>
      have split := accounted.allocated_split found
      exact ⟨accounted.distinct_others key, fun _ => accounted.charged_others,
        by dsimp only; omega⟩

end Accounted

theorem Accounted.enforce [ByteSize α] {cache : Cache α} (accounted : cache.Accounted) :
    cache.enforce.1.Accounted ∧ cache.enforce.1.WithinBudget ∧
      cache.enforce.1.allocated ≤ cache.allocated ∧
      ∀ eviction ∈ cache.enforce.2, eviction.cache.Accounted :=
  accounted.enforceFrom rfl

theorem Accounted.perform [ByteSize α] {cache : Cache α} (accounted : cache.Accounted)
    (operation : Operation α) : (cache.perform operation).1.Accounted := by
  cases operation with
  | put key value => exact (accounted.store key value).enforce.1
  | get key => exact accounted.get key
  | remove key => exact accounted.remove key
  | flush => exact accounted_empty cache.budget
  | setBudget budget =>
      have rebudgeted : { cache with budget }.Accounted :=
        ⟨accounted.distinct, accounted.charged, accounted.allocated⟩
      exact rebudgeted.enforce.1

end ReadThrough.Cache
