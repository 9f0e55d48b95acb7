import ReadThrough.Proofs.Cache.Contents
import ReadThrough.Proofs.Cache.Eviction
import ReadThrough.Proofs.Cache.Faultless
import ReadThrough.Proofs.Since

/-!
# What a cache contains after a sequence of operations

A key is touched when a value is stored under it and when a value is found
under it.  The entries stand in the order of their last touches.  The value
that was stored last under a key is found as long as nothing took it away, and
as long as there was room for it beside all that was touched later, each time
that the cache had to fit its budget.
-/

namespace ReadThrough.Cache

variable {α : Type} [ByteSize α]

/-! ## Histories -/

/-- The operation stores a value under the key or finds one there. -/
def Operation.touches (cache : Cache α) (key : String) : Operation α → Bool
  | .put stored _ => stored = key
  | .get read => read = key && (cache.get key).1.isSome
  | .remove _ | .flush | .setBudget _ => false

/--
The number of the last operation that touches a key, counted from one on; zero
if no operation does.
-/
def lastTouch (cache : Cache α) (key : String) : List (Operation α) → Nat
  | [] => 0
  | operation :: operations =>
    match (cache.perform operation).1.lastTouch key operations with
    | 0 => if operation.touches cache key then 1 else 0
    | later + 1 => later + 2

/-- The operation takes away what is stored under the key, or replaces it. -/
def Operation.displaces (key : String) : Operation α → Bool
  | .put other _ | .remove other => other = key
  | .flush => true
  | .get _ | .setBudget _ => false

/-- The cache when an operation begins to evict, if it is one of those that may. -/
def crowded? (cache : Cache α) : Operation α → Option (Cache α)
  | .put key value => some (cache.store key value)
  | .setBudget budget => some { cache with budget }
  | .get _ | .remove _ | .flush => none

/--
If an operation may evict, an entry of a key fits the budget together with all
entries that are touched later.
-/
def HasRoom (start : Cache α) (history : List (Operation α)) (operation : Operation α)
    (key : String) (size : Nat) : Prop :=
  ∀ crowded ∈ (start.run history).1.crowded? operation, 0 < crowded.budget →
    size + total (touchedAfter (fun other => start.lastTouch other (history ++ [operation])) key
      crowded.entries) ≤ crowded.budget

/--
The value was stored last under the key, nothing displaced it since, and there
was room for it from then on.
-/
def Retained (start : Cache α) (operations : List (Operation α)) (key : String) (value : α) :
    Prop :=
  let fits (history : List (Operation α)) (operation : Operation α) :=
    HasRoom start history operation key (chargedSize key value)
  Since (fun history operation => operation = .put key value ∧ fits history operation)
    (fun history operation => operation.displaces key = false ∧ fits history operation) operations

theorem run_concat (start : Cache α) (history : List (Operation α)) (operation : Operation α) :
    (start.run (history ++ [operation])).1 = ((start.run history).1.perform operation).1 := by
  induction history generalizing start with
  | nil => rfl
  | cons first history ih => exact ih (start.perform first).1

/-- Only the last operation can touch a key anew. -/
theorem lastTouch_concat (start : Cache α) (key : String) (history : List (Operation α))
    (operation : Operation α) :
    start.lastTouch key (history ++ [operation]) =
      if operation.touches (start.run history).1 key then history.length + 1
      else start.lastTouch key history := by
  induction history generalizing start with
  | nil => rfl
  | cons first history ih =>
      have after := ih (start.perform first).1
      rw [List.cons_append, lastTouch, after, lastTouch]
      by_cases touched : operation.touches ((start.perform first).1.run history).1 key
      · rw [if_pos touched]
        exact (if_pos touched).symm
      · rw [if_neg touched]
        exact (if_neg touched).symm

/-- A value is retained after one more operation if it fits and is stored or stays. -/
theorem retained_concat {start : Cache α} {history : List (Operation α)}
    {operation : Operation α} {key : String} {value : α} :
    Retained start (history ++ [operation]) key value ↔
      HasRoom start history operation key (chargedSize key value) ∧
        (operation = .put key value ∨
          Retained start history key value ∧ operation.displaces key = false) := by
  rw [Retained, Retained, Since.concat_iff]
  constructor
  · rintro (⟨stored, room⟩ | ⟨retained, stays, room⟩)
    · exact ⟨room, Or.inl stored⟩
    · exact ⟨room, Or.inr ⟨retained, stays⟩⟩
  · rintro ⟨room, stored | ⟨retained, stays⟩⟩
    · exact Or.inl ⟨stored, room⟩
    · exact Or.inr ⟨retained, stays, room⟩

/-! ## One more operation -/

/-- Without a repeated key, a value is found exactly if an entry holds it. -/
theorem Accounted.get_eq_some_iff {cache : Cache α} (accounted : cache.Accounted) {key : String}
    {value : α} :
    (cache.get key).1 = some value ↔
      ∃ entry ∈ cache.entries, entry.key = key ∧ entry.value = value := by
  rw [value_get, Option.map_eq_some_iff]
  constructor
  · rintro ⟨entry, found, same⟩
    obtain ⟨present, named⟩ := find?_some found
    exact ⟨entry, present, named, same⟩
  · rintro ⟨entry, present, rfl, rfl⟩
    cases found : cache.find? entry.key with
    | none => simpa using List.find?_eq_none.mp found entry present
    | some other =>
        obtain ⟨otherPresent, named⟩ := find?_some found
        have same := List.inj_on_of_nodup_map accounted.distinct otherPresent present named
        exact ⟨other, rfl, congrArg Entry.value same⟩

/-- Eviction removes the entries for which there is no room, and no others. -/
theorem Accounted.get_enforce {crowded : Cache α} (accounted : crowded.Accounted)
    {times : String → Nat} {now : Nat}
    (chronological : Chronological times now crowded.entries) {key : String} {value : α} :
    (crowded.enforce.1.get key).1 = some value ↔
      (crowded.get key).1 = some value ∧
        (0 < crowded.budget → chargedSize key value +
          total (touchedAfter times key crowded.entries) ≤ crowded.budget) := by
  have left : crowded.enforce.1.entries = fitting crowded.budget crowded.entries :=
    entries_enforceFrom accounted.allocated
  rw [accounted.get_eq_some_iff, accounted.enforce.1.get_eq_some_iff, left]
  constructor
  · rintro ⟨entry, stays, rfl, rfl⟩
    have present := (fitting_suffix _ _).subset stays
    rw [← accounted.charged entry present]
    exact ⟨⟨entry, present, rfl, rfl⟩, (chronological.mem_fitting_iff present).mp stays⟩
  · rintro ⟨⟨entry, present, rfl, rfl⟩, room⟩
    rw [← accounted.charged entry present] at room
    exact ⟨entry, (chronological.mem_fitting_iff present).mpr room, rfl, rfl⟩

section Steps

variable {cache : Cache α} {operation : Operation α} {times later : String → Nat} {now : Nat}

/-- The entries stand in the order of the touches when the operation begins to evict. -/
theorem chronological_crowded (chronological : Chronological times now cache.entries)
    (touches : ∀ key, later key = if operation.touches cache key then now + 1 else times key)
    {crowded : Cache α} (evicts : cache.crowded? operation = some crowded) :
    Chronological later (now + 1) crowded.entries := by
  cases operation with
  | put key value =>
      cases evicts
      refine chronological.touch rfl ?_ ?_
      · simp [touches, Operation.touches]
      · intro other different
        simp [touches, Operation.touches, Ne.symm different]
  | setBudget budget =>
      cases evicts
      exact chronological.wait fun entry present => touches entry.key
  | get | remove | flush => cases evicts

theorem chronological_perform (accounted : cache.Accounted)
    (chronological : Chronological times now cache.entries)
    (touches : ∀ key, later key = if operation.touches cache key then now + 1 else times key) :
    Chronological later (now + 1) (cache.perform operation).1.entries := by
  -- Eviction leaves a part of the entries that stood in order when it began.
  have evicted {crowded : Cache α} (fine : crowded.Accounted)
      (evicts : cache.crowded? operation = some crowded) :
      Chronological later (now + 1) crowded.enforce.1.entries := by
    have left : crowded.enforce.1.entries = fitting crowded.budget crowded.entries :=
      entries_enforceFrom fine.allocated
    rw [left]
    exact (chronological_crowded chronological touches evicts).sublist
      (fitting_suffix _ _).sublist
  cases operation with
  | put key value => exact evicted (accounted.store key value) rfl
  | setBudget budget =>
      exact evicted ⟨accounted.distinct, accounted.charged, accounted.allocated⟩ rfl
  | get key =>
      rw [perform, get]
      cases found : cache.find? key with
      | none =>
          refine chronological.wait fun entry present => (touches entry.key).trans (if_neg ?_)
          intro touched
          obtain ⟨rfl, hit⟩ : key = entry.key ∧ (cache.get entry.key).1.isSome := by
            simpa [Operation.touches] using touched
          rw [value_get, found] at hit
          cases hit
      | some entry =>
          refine chronological.touch (find?_some found).2 ?_ ?_
          · simp [touches, Operation.touches, value_get, found]
          · intro other different
            simp [touches, Operation.touches, Ne.symm different]
  | remove key =>
      have rest := chronological.wait fun entry present => touches entry.key
      rw [perform, remove]
      cases cache.find? key with
      | none => exact rest
      | some entry => exact rest.sublist List.filter_sublist
  | flush => exact .nil

/-- What is found after an operation was stored by it or found before it, and had room. -/
theorem get_perform (accounted : cache.Accounted)
    (chronological : Chronological times now cache.entries)
    (touches : ∀ key, later key = if operation.touches cache key then now + 1 else times key)
    {key : String} {value : α} :
    ((cache.perform operation).1.get key).1 = some value ↔
      (∀ crowded ∈ cache.crowded? operation, 0 < crowded.budget → chargedSize key value +
        total (touchedAfter later key crowded.entries) ≤ crowded.budget) ∧
      (operation = .put key value ∨
        (cache.get key).1 = some value ∧ operation.displaces key = false) := by
  have ordered {crowded : Cache α} (evicts : cache.crowded? operation = some crowded) :
      Chronological later (now + 1) crowded.entries :=
    chronological_crowded chronological touches evicts
  cases operation with
  | put stored new =>
      refine ((accounted.store stored new).get_enforce (ordered rfl)).trans ?_
      rw [get_store]
      by_cases same : stored = key
      · simp [crowded?, Operation.displaces, same, and_comm]
      · simp [crowded?, Operation.displaces, same, and_comm]
  | setBudget budget =>
      have rebudgeted : { cache with budget }.Accounted :=
        ⟨accounted.distinct, accounted.charged, accounted.allocated⟩
      refine (rebudgeted.get_enforce (ordered rfl)).trans ?_
      simp [crowded?, Operation.displaces, and_comm, value_get, find?]
  | get read => simp [crowded?, Operation.displaces, perform, get_get]
  | remove removed => simp [crowded?, Operation.displaces, perform, get_remove, and_comm]
  | flush => simp [crowded?, Operation.displaces, perform, flush, empty, value_get, find?]

end Steps

/-! ## Sequences of operations -/

theorem accounted_run (budget : Nat) (operations : List (Operation α)) :
    ((empty budget).run operations).1.Accounted := by
  induction operations using List.reverseRecOn with
  | nil => exact accounted_empty budget
  | append_singleton history operation ih =>
      rw [run_concat]
      exact ih.perform operation

theorem chronological_run (budget : Nat) (operations : List (Operation α)) :
    Chronological (fun key => (empty budget).lastTouch key operations) operations.length
      ((empty budget).run operations).1.entries := by
  induction operations using List.reverseRecOn with
  | nil => exact .nil
  | append_singleton history operation ih =>
      rw [run_concat, List.length_append, List.length_singleton]
      exact chronological_perform (accounted_run budget history) ih fun key =>
        lastTouch_concat (empty budget) key history operation

theorem get_run (budget : Nat) (operations : List (Operation α)) (key : String) (value : α) :
    (((empty budget).run operations).1.get key).1 = some value ↔
      Retained (empty budget) operations key value := by
  induction operations using List.reverseRecOn with
  | nil => simp [run, Retained, value_get, find?, empty]
  | append_singleton history operation ih =>
      rw [run_concat, retained_concat, ← ih]
      exact get_perform (accounted_run budget history) (chronological_run budget history)
        fun other => lastTouch_concat (empty budget) other history operation

/--
As long as the charged sizes fit a signed word after every insertion, what a
cache contains can be told from the operations so far.  A value is found exactly
if it was stored last under its key, was not displaced since, and had room at
each of the operations that may evict.  The entries stand in the order of their
last touches.
-/
theorem contents_by_history (budget : Nat) (operations : List (Operation α))
    (fits : Word.FitsThroughout (empty budget) operations) :
    let start : Cache α := empty budget
    let cache := (start.run operations).1
    (∀ before, before <+: operations → Word.run start before = .ok (start.run before)) ∧
    (∀ key value, (cache.get key).1 = some value ↔ Retained start operations key value) ∧
    cache.entries.Pairwise (fun older newer =>
      start.lastTouch older.key operations < start.lastTouch newer.key operations) ∧
    ∀ entry ∈ cache.entries, 0 < start.lastTouch entry.key operations := by
  intro start cache
  obtain ⟨ordered, past⟩ := chronological_run budget operations
  refine ⟨?_, get_run budget operations, ordered, fun entry present => (past entry present).1⟩
  intro before earlier
  exact ((Word.settled_empty budget).run (fits.take earlier)).1

/-- A value that was read again outlives a later one when the budget shrinks. -/
theorem contents_by_history_read_again :
    let start : Cache String := empty 9
    let operations : List (Operation String) :=
      [.put "a" "1", .put "b" "22", .get "a", .get "c", .setBudget 5, .put "c" "3"]
    Word.FitsThroughout start operations ∧ Retained start operations "a" "1" ∧
      ¬ Retained start operations "b" "22" ∧
      start.lastTouch "a" operations = 3 ∧ start.lastTouch "c" operations = 6 := by
  intro start operations
  have settled : Word.Settled start := Word.settled_empty 9
  have fits : Word.FitsThroughout start operations := by
    refine settled.fitsThroughout_cons (by unfold Word.Fits; decide) fun first => ?_
    refine first.fitsThroughout_cons (by unfold Word.Fits; decide) fun second => ?_
    refine second.fitsThroughout_cons True.intro fun third => ?_
    refine third.fitsThroughout_cons True.intro fun fourth => ?_
    refine fourth.fitsThroughout_cons True.intro fun fifth => ?_
    exact fifth.fitsThroughout_cons (by unfold Word.Fits; decide) fun _ => True.intro
  obtain ⟨-, contents, -⟩ := contents_by_history 9 operations fits
  refine ⟨fits, (contents "a" "1").mp (by decide), fun retained => ?_, by decide, by decide⟩
  have found := (contents "b" "22").mpr retained
  revert found
  decide

end ReadThrough.Cache
