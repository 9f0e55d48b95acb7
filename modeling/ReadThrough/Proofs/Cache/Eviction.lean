import ReadThrough.Proofs.Cache.Accounting

/-!
# What eviction keeps

Eviction keeps the most recently used entries, as many of them as fit the
budget together.  Whether an entry stays therefore depends on its own size and
on the sizes of the entries behind it, and on nothing else.
-/

namespace ReadThrough.Cache

variable {α : Type}

/-- The most recently used entries, as many as fit the budget; all of them without a budget. -/
def fitting (budget : Nat) : List (Entry α) → List (Entry α)
  | [] => []
  | oldest :: rest =>
    if budget = 0 ∨ total (oldest :: rest) ≤ budget then oldest :: rest else fitting budget rest

theorem fitting_suffix (budget : Nat) (entries : List (Entry α)) :
    fitting budget entries <:+ entries := by
  induction entries with
  | nil => exact List.suffix_rfl
  | cons oldest rest ih =>
      rw [fitting]
      split
      · exact List.suffix_rfl
      · exact ih.trans (List.suffix_cons oldest rest)

/-- Eviction leaves the entries that fit. -/
theorem entries_enforceFrom {cache : Cache α} {entries : List (Entry α)}
    (allocated : cache.allocated = total entries) :
    (cache.enforceFrom entries).1.entries = fitting cache.budget entries := by
  induction entries generalizing cache with
  | nil => rfl
  | cons oldest rest ih =>
      have fits_iff := exceeds_eq_false_iff cache
      rw [WithinBudget, allocated] at fits_iff
      rw [enforceFrom, fitting]
      cases exceeded : cache.exceeds with
      | false => rw [if_neg (by simp), if_pos (fits_iff.mp exceeded)]
      | true =>
          have tooMuch : ¬ (cache.budget = 0 ∨ total (oldest :: rest) ≤ cache.budget) := by
            rw [← fits_iff, exceeded]
            simp
          -- The allocated memory stays the sum of what is left, so the rest goes the same way.
          have remaining : (cache.withoutOldest oldest rest).allocated = total rest := by
            rw [total_cons] at allocated
            change cache.allocated - oldest.size = total rest
            omega
          rw [if_pos rfl, if_neg tooMuch]
          exact ih remaining

/-- An entry stays if it fits together with all that are behind it. -/
theorem mem_fitting_iff {budget : Nat} {older newer : List (Entry α)} {entry : Entry α}
    (single : entry ∉ newer) :
    entry ∈ fitting budget (older ++ entry :: newer) ↔
      budget = 0 ∨ total (entry :: newer) ≤ budget := by
  induction older with
  | nil =>
      rw [List.nil_append, fitting]
      split
      · rename_i fits
        simp only [List.mem_cons_self, fits]
      · rename_i tooMuch
        have gone : entry ∉ fitting budget newer :=
          fun stays => single ((fitting_suffix budget newer).subset stays)
        simp only [gone, tooMuch]
  | cons oldest older ih =>
      rw [List.cons_append, fitting]
      split
      · rename_i fits
        refine iff_of_true (by simp) (fits.imp_right fun whole => Nat.le_trans ?_ whole)
        simp only [total_cons, total_append]
        omega
      · exact ih

/-! ## Entries in the order of their last touches -/

def touchedAfter (times : String → Nat) (key : String) (entries : List (Entry α)) :
    List (Entry α) :=
  entries.filter fun entry => times key < times entry.key

/-- The entries stand in the order of the given times, which lie in the past. -/
structure Chronological (times : String → Nat) (now : Nat) (entries : List (Entry α)) : Prop where
  ordered : entries.Pairwise fun older newer => times older.key < times newer.key
  past : ∀ entry ∈ entries, 0 < times entry.key ∧ times entry.key ≤ now

namespace Chronological

variable {times later : String → Nat} {now : Nat} {entries : List (Entry α)}

theorem nil : Chronological times now ([] : List (Entry α)) :=
  ⟨.nil, by simp⟩

theorem sublist {fewer : List (Entry α)} (chronological : Chronological times now entries)
    (among : fewer.Sublist entries) : Chronological times now fewer where
  ordered := chronological.ordered.sublist among
  past := fun entry present => chronological.past entry (among.subset present)

/-- Time goes on without a touch of an entry. -/
theorem wait (chronological : Chronological times now entries)
    (same : ∀ entry ∈ entries, later entry.key = times entry.key) :
    Chronological later (now + 1) entries where
  ordered := by
    refine chronological.ordered.imp_of_mem ?_
    intro older newer olderPresent newerPresent before
    rw [same older olderPresent, same newer newerPresent]
    exact before
  past := by
    intro entry present
    obtain ⟨positive, reached⟩ := chronological.past entry present
    rw [same entry present]
    exact ⟨positive, Nat.le_succ_of_le reached⟩

/-- An entry that is touched becomes the last one. -/
theorem touch (chronological : Chronological times now entries) {key : String}
    {entry : Entry α} (named : entry.key = key) (touched : later key = now + 1)
    (untouched : ∀ other, other ≠ key → later other = times other) :
    Chronological later (now + 1) (others entries key ++ [entry]) := by
  subst named
  have rest : Chronological later (now + 1) (others entries entry.key) := by
    refine (chronological.sublist List.filter_sublist).wait fun other present => ?_
    refine untouched other.key ?_
    simpa using (List.mem_filter.mp present).2
  refine ⟨List.pairwise_append.mpr ⟨rest.ordered, List.pairwise_singleton _ _, ?_⟩, ?_⟩
  · intro older present newer last
    rw [List.mem_singleton.mp last, touched]
    obtain ⟨old, different⟩ := List.mem_filter.mp present
    rw [untouched older.key (by simpa using different)]
    exact Nat.lt_succ_of_le (chronological.past older old).2
  · intro other present
    rcases List.mem_append.mp present with old | last
    · exact rest.past other old
    · rw [List.mem_singleton.mp last, touched]
      exact ⟨Nat.succ_pos now, Nat.le_refl _⟩

/-- The entries behind an entry are those that were touched later. -/
theorem touchedAfter_append {older newer : List (Entry α)} {entry : Entry α}
    (chronological : Chronological times now (older ++ entry :: newer)) :
    touchedAfter times entry.key (older ++ entry :: newer) = newer := by
  obtain ⟨-, behind, before⟩ := List.pairwise_append.mp chronological.ordered
  have earlier : touchedAfter times entry.key older = [] := by
    refine List.filter_eq_nil_iff.mpr fun other present => ?_
    simpa using Nat.le_of_lt (before other present entry List.mem_cons_self)
  have afterwards : touchedAfter times entry.key newer = newer := by
    refine List.filter_eq_self.mpr fun other present => ?_
    simpa using (List.pairwise_cons.mp behind).1 other present
  rw [touchedAfter, List.filter_append, List.filter_cons_of_neg (by simp)]
  change touchedAfter times entry.key older ++ touchedAfter times entry.key newer = newer
  rw [earlier, afterwards, List.nil_append]

theorem mem_fitting_iff (chronological : Chronological times now entries) {budget : Nat}
    {entry : Entry α} (present : entry ∈ entries) :
    entry ∈ fitting budget entries ↔
      (0 < budget → entry.size + total (touchedAfter times entry.key entries) ≤ budget) := by
  obtain ⟨older, newer, rfl⟩ := List.append_of_mem present
  have single : entry ∉ newer := by
    intro again
    obtain ⟨-, behind, -⟩ := List.pairwise_append.mp chronological.ordered
    exact Nat.lt_irrefl _ ((List.pairwise_cons.mp behind).1 entry again)
  rw [Cache.mem_fitting_iff single, chronological.touchedAfter_append, total_cons,
    Nat.pos_iff_ne_zero, or_iff_not_imp_left]

end Chronological

end ReadThrough.Cache
