import ReadThrough.Proofs.Cache.History
import ReadThrough.Proofs.Since

/-!
# What becomes of the values in a cache

Eviction keeps as many of the most recently used entries as fit the budget and
reports all others, the oldest first.  A value that was stored is in the cache,
or was evicted, replaced or removed, so these numbers add up over any sequence
of operations without a flush.
-/

namespace ReadThrough.Cache

variable {α : Type}

/-! ## What is evicted -/

/-- The longest end of some entries that fits a budget; all of them without a budget. -/
structure LongestFitting (budget : Nat) (entries kept : List (Entry α)) : Prop where
  suffix : kept <:+ entries
  fits : budget = 0 ∨ total kept ≤ budget
  longest : ∀ other, other <:+ entries → (budget = 0 ∨ total other ≤ budget) → other <:+ kept

theorem longestFitting_fitting (budget : Nat) (entries : List (Entry α)) :
    LongestFitting budget entries (fitting budget entries) := by
  induction entries with
  | nil => exact ⟨List.suffix_rfl, Or.inr (Nat.zero_le _), fun _ suffix _ => suffix⟩
  | cons oldest rest ih =>
      rw [fitting]
      split
      · rename_i whole
        exact ⟨List.suffix_rfl, whole, fun _ suffix _ => suffix⟩
      · rename_i tooMuch
        refine ⟨ih.suffix.trans (List.suffix_cons oldest rest), ih.fits, ?_⟩
        intro other suffix fits
        rcases List.suffix_cons_iff.mp suffix with rfl | shorter
        · exact absurd fits tooMuch
        · exact ih.longest other shorter fits

/-- What a callback is told of some evictions, if there is a callback. -/
def reports (callback : Bool) (evicted : List (Eviction α)) : List (String × α) :=
  if callback then evicted.map fun eviction => (eviction.key, eviction.value) else []

/-- Eviction takes entries away from the front and counts them. -/
structure Evicts (cache next : Cache α) (evicted : List (Eviction α)) : Prop where
  reported : ∃ removed, cache.entries = removed ++ next.entries ∧
    evicted.map (fun eviction => (eviction.key, eviction.value)) =
      removed.map fun entry => (entry.key, entry.value)
  evictions : next.evictions = cache.evictions + evicted.length
  reads : next.reads = cache.reads
  hits : next.hits = cache.hits
  writes : next.writes = cache.writes

theorem evicts_enforceFrom {cache : Cache α} {entries : List (Entry α)}
    (same : cache.entries = entries) :
    cache.Evicts (cache.enforceFrom entries).1 (cache.enforceFrom entries).2 := by
  induction entries generalizing cache with
  | nil => exact ⟨⟨[], same, rfl⟩, rfl, rfl, rfl, rfl⟩
  | cons oldest rest ih =>
      rw [enforceFrom]
      split
      · have later : (cache.withoutOldest oldest rest).Evicts _ _ := ih rfl
        obtain ⟨removed, split, reported⟩ := later.reported
        refine ⟨⟨oldest :: removed, ?_, ?_⟩, ?_, later.reads, later.hits, later.writes⟩
        · rw [same, List.cons_append, ← split]
          rfl
        · rw [List.map_cons, List.map_cons, reported]
        · refine later.evictions.trans ?_
          rw [List.length_cons, Nat.add_comm _ 1, ← Nat.add_assoc]
          rfl
      · exact ⟨⟨[], same, rfl⟩, rfl, rfl, rfl, rfl⟩

theorem evicts_enforce (cache : Cache α) : cache.Evicts cache.enforce.1 cache.enforce.2 :=
  evicts_enforceFrom rfl

theorem Evicts.length {cache next : Cache α} {evicted : List (Eviction α)}
    (evicts : cache.Evicts next evicted) :
    cache.entries.length = evicted.length + next.entries.length := by
  obtain ⟨removed, split, reported⟩ := evicts.reported
  have same := congrArg List.length reported
  rw [List.length_map, List.length_map] at same
  rw [split, List.length_append, same]

/-! ## Counting operations -/

def Operation.isGet : Operation α → Bool
  | .get _ => true
  | .put .. | .remove _ | .flush | .setBudget _ => false

def Operation.isPut : Operation α → Bool
  | .put .. => true
  | .get _ | .remove _ | .flush | .setBudget _ => false

def Operation.isRemove : Operation α → Bool
  | .remove _ => true
  | .get _ | .put .. | .flush | .setBudget _ => false

def Operation.replaces (cache : Cache α) : Operation α → Bool
  | .put key _ => (cache.find? key).isSome
  | .get _ | .remove _ | .flush | .setBudget _ => false

def Operation.withdraws (cache : Cache α) : Operation α → Bool
  | .remove key => (cache.find? key).isSome
  | .get _ | .put .. | .flush | .setBudget _ => false

variable [ByteSize α]

/-- How many of the operations are of a kind, each told from the cache that it finds. -/
def count (kind : Cache α → Operation α → Bool) (cache : Cache α)
    (operations : List (Operation α)) : Nat :=
  tally (fun cache operation => (cache.perform operation).1) kind cache operations

theorem run_eq_foldl (cache : Cache α) (operations : List (Operation α)) :
    (cache.run operations).1 =
      operations.foldl (fun cache operation => (cache.perform operation).1) cache := by
  induction operations generalizing cache with
  | nil => rfl
  | cons operation operations ih => exact ih (cache.perform operation).1

theorem count_concat (kind : Cache α → Operation α → Bool) (cache : Cache α)
    (operations : List (Operation α)) (last : Operation α) :
    cache.count kind (operations ++ [last]) =
      cache.count kind operations + (kind (cache.run operations).1 last).toNat := by
  rw [count, tally_concat, ← run_eq_foldl]
  rfl

theorem evicted_concat (cache : Cache α) (operations : List (Operation α)) (last : Operation α) :
    (cache.run (operations ++ [last])).2 =
      (cache.run operations).2 ++ ((cache.run operations).1.perform last).2 := by
  induction operations generalizing cache with
  | nil => simp [run]
  | cons operation operations ih => simp [run_cons, ih]

/-! ## One operation -/

section Steps

variable {cache : Cache α} {operation : Operation α}

theorem length_others (accounted : cache.Accounted) (key : String) :
    (others cache.entries key).length + (cache.find? key).isSome.toNat =
      cache.entries.length := by
  cases found : cache.find? key with
  | none =>
      have absent : ∀ entry ∈ cache.entries, entry.key ≠ key := by
        simpa [find?] using found
      rw [others_of_absent absent]
      rfl
  | some entry => exact (cons_others_perm accounted.distinct found).length_eq

/-- An operation other than a flush balances the entries with what becomes of the values. -/
theorem balance_perform (accounted : cache.Accounted) (keeps : operation ≠ .flush) :
    (cache.perform operation).1.entries.length + (cache.perform operation).2.length +
        (operation.replaces cache).toNat + (operation.withdraws cache).toNat =
      cache.entries.length + operation.isPut.toNat := by
  cases operation with
  | put key value =>
      have stored : (cache.store key value).entries.length =
          (others cache.entries key).length + 1 := List.length_append
      have evicted : (cache.store key value).entries.length =
          (cache.put key value).2.length + (cache.put key value).1.entries.length :=
        (evicts_enforce (cache.store key value)).length
      have kept := length_others accounted key
      simp only [Operation.replaces, Operation.withdraws, Operation.isPut, perform,
        Bool.toNat_true, Bool.toNat_false]
      omega
  | get key =>
      have kept := length_others accounted key
      rw [perform, get]
      cases found : cache.find? key with
      | none => rfl
      | some entry =>
          rw [found] at kept
          simpa [Operation.replaces, Operation.withdraws, Operation.isPut] using kept
  | remove key =>
      have kept := length_others accounted key
      rw [perform, remove]
      cases found : cache.find? key with
      | none => simp [Operation.replaces, Operation.withdraws, Operation.isPut, found]
      | some entry =>
          rw [found] at kept
          simpa [Operation.replaces, Operation.withdraws, Operation.isPut, found] using kept
  | setBudget budget =>
      have evicted : cache.entries.length =
          (cache.setBudget budget).2.length + (cache.setBudget budget).1.entries.length :=
        (evicts_enforce { cache with budget }).length
      simp only [Operation.replaces, Operation.withdraws, Operation.isPut, perform,
        Bool.toNat_false]
      omega
  | flush => exact absurd rfl keeps

theorem evictions_perform (keeps : operation ≠ .flush) :
    (cache.perform operation).1.evictions =
      cache.evictions + (cache.perform operation).2.length := by
  cases operation with
  | put key value => exact (evicts_enforce (cache.store key value)).evictions
  | get key =>
      rw [perform, get]
      split <;> rfl
  | remove key =>
      rw [perform, remove]
      split <;> rfl
  | setBudget budget => exact (evicts_enforce { cache with budget }).evictions
  | flush => exact absurd rfl keeps

theorem reads_perform (keeps : operation ≠ .flush) :
    (cache.perform operation).1.reads = cache.reads + operation.isGet.toNat := by
  cases operation with
  | put key value => exact (evicts_enforce (cache.store key value)).reads
  | get key =>
      rw [perform, get]
      split <;> rfl
  | remove key =>
      rw [perform, remove]
      split <;> rfl
  | setBudget budget => exact (evicts_enforce { cache with budget }).reads
  | flush => exact absurd rfl keeps

/-- Whether there was a value to remove or not, it counts. -/
theorem writes_perform (keeps : operation ≠ .flush) :
    (cache.perform operation).1.writes =
      cache.writes + operation.isPut.toNat + operation.isRemove.toNat := by
  cases operation with
  | put key value => exact (evicts_enforce (cache.store key value)).writes
  | get key =>
      rw [perform, get]
      split <;> rfl
  | remove key =>
      rw [perform, remove]
      split <;> rfl
  | setBudget budget => exact (evicts_enforce { cache with budget }).writes
  | flush => exact absurd rfl keeps

theorem hits_perform (below : cache.hits ≤ cache.reads) :
    (cache.perform operation).1.hits ≤ (cache.perform operation).1.reads := by
  cases operation with
  | put key value =>
      have evicts := evicts_enforce (cache.store key value)
      rw [perform, put, evicts.hits, evicts.reads]
      exact below
  | get key =>
      rw [perform, get]
      split
      · exact Nat.succ_le_succ below
      · exact Nat.le_succ_of_le below
  | remove key =>
      rw [perform, remove]
      split <;> exact below
  | setBudget budget =>
      have evicts := evicts_enforce { cache with budget }
      rw [perform, setBudget, evicts.hits, evicts.reads]
      exact below
  | flush => exact Nat.le_refl 0

end Steps

/-! ## Sequences of operations -/

theorem accounted_after {cache : Cache α} (accounted : cache.Accounted)
    (operations : List (Operation α)) : (cache.run operations).1.Accounted := by
  induction operations generalizing cache with
  | nil => exact accounted
  | cons operation operations ih => exact ih (accounted.perform operation)

/-- Without a flush, every value that was stored is an entry or was evicted, replaced or removed. -/
theorem balance_run {cache : Cache α} (accounted : cache.Accounted)
    {operations : List (Operation α)} (keeps : .flush ∉ operations) :
    (cache.run operations).1.entries.length + (cache.run operations).2.length +
        cache.count Operation.replaces operations + cache.count Operation.withdraws operations =
      cache.entries.length + operations.countP Operation.isPut := by
  induction operations using List.reverseRecOn with
  | nil => rfl
  | append_singleton history last ih =>
      rw [List.mem_append, List.mem_singleton, not_or] at keeps
      have before := ih keeps.1
      have step := balance_perform (accounted_after accounted history) (Ne.symm keeps.2)
      have put : [last].countP Operation.isPut = last.isPut.toNat := by
        rw [List.countP_singleton]
        cases last.isPut <;> rfl
      rw [run_concat, evicted_concat, count_concat, count_concat, List.length_append,
        List.countP_append, put]
      omega

theorem evictions_run {cache : Cache α} {operations : List (Operation α)}
    (keeps : .flush ∉ operations) :
    (cache.run operations).1.evictions = cache.evictions + (cache.run operations).2.length := by
  induction operations using List.reverseRecOn with
  | nil => rfl
  | append_singleton history last ih =>
      rw [List.mem_append, List.mem_singleton, not_or] at keeps
      have before := ih keeps.1
      rw [run_concat, evictions_perform (Ne.symm keeps.2), evicted_concat, List.length_append,
        before, Nat.add_assoc]

theorem hits_run {cache : Cache α} (below : cache.hits ≤ cache.reads)
    (operations : List (Operation α)) :
    (cache.run operations).1.hits ≤ (cache.run operations).1.reads := by
  induction operations generalizing cache with
  | nil => exact below
  | cons operation operations ih => exact ih (hits_perform below)

/-- A new cache, and one that has just been flushed, has no entries and has counted nothing. -/
theorem balance_fresh (limit : Nat) {operations : List (Operation α)}
    (keeps : .flush ∉ operations) :
    operations.countP Operation.isPut =
        ((empty limit).run operations).1.entries.length +
          ((empty limit).run operations).1.evictions +
          (empty limit).count Operation.replaces operations +
          (empty limit).count Operation.withdraws operations ∧
      ((empty limit).run operations).1.evictions =
        (reports true ((empty limit).run operations).2).length ∧
      ((empty limit).run operations).1.hits ≤ ((empty limit).run operations).1.reads := by
  have balance := balance_run (accounted_empty limit) keeps
  have counted : ((empty limit).run operations).1.evictions = (empty limit).evictions + _ :=
    evictions_run keeps
  rw [empty, Nat.zero_add, ← empty] at counted
  rw [empty, List.length_nil, ← empty] at balance
  refine ⟨by omega, ?_, hits_run (Nat.le_refl 0) operations⟩
  rw [counted, reports, if_pos rfl, List.length_map]

/-- A sequence that fits can be cut in two. -/
theorem Word.Settled.cut {cache : Cache α} (settled : Word.Settled cache)
    {first second : List (Operation α)} (fits : Word.FitsThroughout cache (first ++ second)) :
    Word.Settled (cache.run first).1 ∧ Word.FitsThroughout (cache.run first).1 second := by
  induction first generalizing cache with
  | nil => exact ⟨settled, fits⟩
  | cons operation first ih =>
      obtain ⟨performed, next, -⟩ := settled.perform fits.1
      exact ih next (fits.2 _ _ performed)

/-- The operations begin with the cache or right after a flush, and do not flush it again. -/
def SinceFlush (earlier recent : List (Operation α)) : Prop :=
  (earlier = [] ∨ ∃ before, earlier = before ++ [.flush]) ∧ .flush ∉ recent

theorem SinceFlush.run_eq_empty {earlier recent : List (Operation α)}
    (since : SinceFlush earlier recent) (budget : Nat) :
    ∃ limit, ((empty budget).run earlier).1 = empty limit := by
  obtain ⟨rfl | ⟨before, rfl⟩, -⟩ := since
  · exact ⟨budget, rfl⟩
  · rw [run_concat]
    exact ⟨_, rfl⟩

/--
The entries from which an operation evicts, and the budget that they have to
fit.  A value that is stored stands last, and the one that its key had is gone.
-/
def contenders? (cache : Cache α) : Operation α → Option (List (Entry α) × Nat)
  | .put key value =>
    some (others cache.entries key ++ [⟨key, chargedSize key value, value⟩], cache.budget)
  | .setBudget budget => some (cache.entries, budget)
  | .get _ | .remove _ | .flush => none

theorem contenders?_eq (cache : Cache α) (operation : Operation α) :
    cache.contenders? operation =
      (cache.crowded? operation).map fun crowded => (crowded.entries, crowded.budget) := by
  cases operation <;> rfl

/-- An operation that may evict does so after all else that it does. -/
theorem perform_of_crowded {cache crowded : Cache α} {operation : Operation α}
    (evicts : cache.crowded? operation = some crowded) :
    cache.perform operation = crowded.enforce := by
  cases operation with
  | put | setBudget =>
      cases evicts
      rfl
  | get | remove | flush => cases evicts

theorem accounted_of_crowded {cache crowded : Cache α} (accounted : cache.Accounted)
    {operation : Operation α} (evicts : cache.crowded? operation = some crowded) :
    crowded.Accounted := by
  cases operation with
  | put key value =>
      cases evicts
      exact accounted.store key value
  | setBudget budget =>
      cases evicts
      exact ⟨accounted.distinct, accounted.charged, accounted.allocated⟩
  | get | remove | flush => cases evicts

theorem evicts_nothing {cache : Cache α} {operation : Operation α}
    (keeps : cache.contenders? operation = none) : (cache.perform operation).2 = [] := by
  cases operation with
  | put | setBudget => cases keeps
  | get | remove | flush => rfl

/-- Eviction keeps the longest end that fits, and reports the rest in order. -/
theorem perform_evicts {cache : Cache α} (accounted : cache.Accounted) {operation : Operation α}
    {entries : List (Entry α)} {limit : Nat}
    (contend : cache.contenders? operation = some (entries, limit)) (callback : Bool) :
    LongestFitting limit entries (cache.perform operation).1.entries ∧
      ∃ removed, entries = removed ++ (cache.perform operation).1.entries ∧
        reports callback (cache.perform operation).2 =
          if callback then removed.map fun entry => (entry.key, entry.value) else [] := by
  rw [contenders?_eq] at contend
  obtain ⟨crowded, evicts, same⟩ := Option.map_eq_some_iff.mp contend
  cases same
  rw [perform_of_crowded evicts]
  have fine := accounted_of_crowded accounted evicts
  have left : crowded.enforce.1.entries = fitting crowded.budget crowded.entries :=
    entries_enforceFrom fine.allocated
  obtain ⟨removed, split, reported⟩ := (evicts_enforce crowded).reported
  refine ⟨left ▸ longestFitting_fitting _ _, removed, split, ?_⟩
  rw [reports, reported]

/--
As long as the charged sizes fit a signed word after every insertion, storing a
value or changing the budget keeps the longest end of the entries, in the order
of their last touches, that fits the budget.  A callback is told of each other
entry once, from the least to the most recently used one, and of nothing else.
From the start or a flush on, the values that were stored are the entries and
those that were evicted, replaced or removed.
-/
theorem evicted_beyond_budget (budget : Nat) (operations : List (Operation α))
    (fits : Word.FitsThroughout (empty budget) operations) (callback : Bool) :
    let start : Cache α := empty budget
    (∀ history operation later, operations = history ++ operation :: later →
      ∃ cache next before evicted,
        Word.run start history = .ok (cache, before) ∧
        Word.perform cache operation = .ok (next, evicted) ∧
        (cache.contenders? operation = none → reports callback evicted = []) ∧
        ∀ entries limit, cache.contenders? operation = some (entries, limit) →
          entries.Pairwise (fun older newer =>
            start.lastTouch older.key (history ++ [operation]) <
              start.lastTouch newer.key (history ++ [operation])) ∧
          LongestFitting limit entries next.entries ∧
          ∃ removed, entries = removed ++ next.entries ∧
            reports callback evicted =
              if callback then removed.map fun entry => (entry.key, entry.value) else []) ∧
    ∀ earlier recent, operations = earlier ++ recent → SinceFlush earlier recent →
      ∃ cache final before evicted,
        Word.run start earlier = .ok (cache, before) ∧
        Word.run cache recent = .ok (final, evicted) ∧
        recent.countP Operation.isPut =
          final.entries.length + final.evictions + cache.count Operation.replaces recent +
            cache.count Operation.withdraws recent ∧
        final.evictions = (reports true evicted).length ∧
        final.hits ≤ final.reads := by
  intro start
  have settled : Word.Settled start := Word.settled_empty budget
  refine ⟨?_, ?_⟩
  · rintro history operation later rfl
    obtain ⟨ran, -⟩ := settled.run (fits.take (List.prefix_append history _))
    obtain ⟨reached, fitting⟩ := settled.cut fits
    let cache := (start.run history).1
    have performed : Word.perform cache operation = .ok (cache.perform operation) :=
      (reached.perform fitting.1).1
    refine ⟨cache, (cache.perform operation).1, _, (cache.perform operation).2, ran, performed,
      ?_, ?_⟩
    · intro keeps
      rw [evicts_nothing keeps, reports]
      exact ite_self []
    · intro entries limit contend
      refine ⟨?_, perform_evicts reached.accounted contend callback⟩
      rw [contenders?_eq] at contend
      obtain ⟨crowded, evicts, same⟩ := Option.map_eq_some_iff.mp contend
      cases same
      exact (chronological_crowded (chronological_run budget history)
        (fun key => lastTouch_concat start key history operation) evicts).ordered
  · rintro earlier recent rfl since
    obtain ⟨ran, -⟩ := settled.run (fits.take (List.prefix_append earlier _))
    obtain ⟨reached, fitting⟩ := settled.cut fits
    obtain ⟨limit, fresh⟩ := since.run_eq_empty budget
    rw [fresh] at reached fitting
    obtain ⟨goesOn, -⟩ := reached.run fitting
    refine ⟨empty limit, _, (start.run earlier).2, _, ?_, goesOn, balance_fresh limit since.2⟩
    rw [ran, ← fresh]

/-- A replaced value is not reported, a value that was read is, and a flush starts the count anew. -/
theorem evicted_beyond_budget_flushed :
    let start : Cache String := empty 9
    let history : List (Operation String) := [.put "a" "1", .put "b" "22", .put "a" "333", .get "b"]
    let recent : List (Operation String) :=
      [.put "d" "4", .put "d" "5", .setBudget 1, .put "e" "", .remove "e"]
    let operations := history ++ .put "c" "44444" :: .flush :: recent
    Word.FitsThroughout start operations ∧
      (∃ cache next before evicted,
        Word.run start history = .ok (cache, before) ∧
        Word.perform cache (.put "c" "44444") = .ok (next, evicted) ∧
        LongestFitting 9 [⟨"a", 4, "333"⟩, ⟨"b", 3, "22"⟩, ⟨"c", 6, "44444"⟩] next.entries ∧
        ∃ removed, [⟨"a", 4, "333"⟩, ⟨"b", 3, "22"⟩, ⟨"c", 6, "44444"⟩] = removed ++ next.entries ∧
          reports true evicted = removed.map fun entry => (entry.key, entry.value)) ∧
      ∃ cache final before evicted,
        Word.run start (history ++ [.put "c" "44444", .flush]) = .ok (cache, before) ∧
        Word.run cache recent = .ok (final, evicted) ∧
        3 = final.entries.length + final.evictions + cache.count Operation.replaces recent +
          cache.count Operation.withdraws recent := by
  intro start history recent operations
  have settled : Word.Settled start := Word.settled_empty 9
  have fits : Word.FitsThroughout start operations := by
    refine settled.fitsThroughout_cons (by unfold Word.Fits; decide) fun first => ?_
    refine first.fitsThroughout_cons (by unfold Word.Fits; decide) fun second => ?_
    refine second.fitsThroughout_cons (by unfold Word.Fits; decide) fun third => ?_
    refine third.fitsThroughout_cons True.intro fun fourth => ?_
    refine fourth.fitsThroughout_cons (by unfold Word.Fits; decide) fun fifth => ?_
    refine fifth.fitsThroughout_cons True.intro fun sixth => ?_
    refine sixth.fitsThroughout_cons (by unfold Word.Fits; decide) fun seventh => ?_
    refine seventh.fitsThroughout_cons (by unfold Word.Fits; decide) fun eighth => ?_
    refine eighth.fitsThroughout_cons True.intro fun ninth => ?_
    refine ninth.fitsThroughout_cons (by unfold Word.Fits; decide) fun tenth => ?_
    exact tenth.fitsThroughout_cons True.intro fun _ => True.intro
  obtain ⟨evictions, balance⟩ := evicted_beyond_budget 9 operations fits true
  refine ⟨fits, ?_, ?_⟩
  · obtain ⟨cache, next, before, evicted, ran, performed, -, kept⟩ :=
      evictions history (.put "c" "44444") (.flush :: recent) rfl
    have reached : cache = (start.run history).1 := by
      have same := ran.symm.trans (settled.run (fits.take ⟨_, rfl⟩)).1
      exact congrArg Prod.fst (Except.ok.inj same)
    obtain ⟨-, longest, removed, split, reported⟩ := kept _ 9 (by rw [reached]; rfl)
    exact ⟨cache, next, before, evicted, ran, performed, longest, removed, split, reported⟩
  · obtain ⟨cache, final, before, evicted, ran, goesOn, puts, -⟩ :=
      balance (history ++ [.put "c" "44444", .flush]) recent rfl
        ⟨Or.inr ⟨history ++ [.put "c" "44444"], rfl⟩, by decide⟩
    exact ⟨cache, final, before, evicted, ran, goesOn, puts⟩

end ReadThrough.Cache
