import ReadThrough.Proofs.Group.Provenance
import ReadThrough.Proofs.Group.Questions

/-!
# Loading what is cached already

A call looks into the cache when it begins.  If it asks another node first and
that node fails, it asks the data source without looking again, although the
cache may have got a value for the key in the meantime.  There is no other way
in which the data source is asked for a key that is in the cache.
-/

namespace ReadThrough.Cache

variable {α : Type} {cache : Cache α} {key : String}

/-- A key without a value has no entry. -/
theorem key_ne_of_get_eq_none (missing : (cache.get key).1 = none) :
    ∀ entry ∈ cache.entries, entry.key ≠ key := by
  rw [value_get, Option.map_eq_none_iff, find?, List.find?_eq_none] at missing
  simpa using missing

end ReadThrough.Cache

namespace ReadThrough.Group

/-- The event leaves no entry for a key that was not in the cache. -/
theorem Event.Misses.uncached {group next : Group} {event : Event} {request : Request}
    (misses : event.Misses group request) (cache : next.cache = (group.read request.key).cache) :
    ∀ entry ∈ next.cache.entries, entry.key ≠ request.key := by
  intro entry present
  rw [cache] at present
  exact Cache.key_ne_of_get_eq_none misses.missing entry (Cache.mem_get present)

section Past

variable (start : Group)

/-- While the question was outstanding, the data source returned the value, and no other since. -/
def LoadedMeanwhile (question : Effect) (key : String) (value : Bytes) (moves : List Action) :
    Prop :=
  Since
    (fun before action => Returns start key value before action ∧ Outstanding start before question)
    (fun before action => (∀ other, ¬ Returns start key other before action) ∧
      Outstanding start before question) moves

end Past

section Runs

variable (name : String) (budget : Nat)

/-- What the cache has for a key that another node is asked for was loaded in the meantime. -/
theorem loadedMeanwhile_run (moves : List Action) {call : Nat} {address key : String}
    (asked : ((empty name budget).run moves).1.asked? call = some (.fetch call address key))
    {entry : Cache.Entry Bytes} (present : entry ∈ ((empty name budget).run moves).1.cache.entries)
    (named : entry.key = key) :
    LoadedMeanwhile (empty name budget) (.fetch call address key) key entry.value moves := by
  induction moves using run_induction (empty name budget) with
  | nil => cases present
  | attach history attached same ih =>
      rw [same] at asked present
      refine Since.later (ih asked present) ⟨?_, ?_⟩
      · rintro other ⟨choose, loader, impossible, -⟩
        cases impossible
      · exact ((asked?_run name budget history call _).mp asked).2
  | step history choose event stepped ih =>
      rcases stepped.asked?_iff.mp asked with ⟨now, -⟩ | ⟨before, -⟩
      · -- The node has just been asked, because the cache had nothing for the key.
        obtain ⟨-, misses, -, cache⟩ := stepped.fetch_asked now
        exact absurd named (misses.uncached cache entry present)
      · have outstanding := ((asked?_run name budget history call _).mp before).2
        rcases stepped.entries present with ⟨old, unchanged⟩ | provides
        · refine Since.later (ih before old) ⟨fun other returns => unchanged other ?_, outstanding⟩
          rw [named]
          exact (returns_step name budget).mp returns
        · rw [named] at provides
          exact Since.now ⟨(returns_step name budget).mpr provides, outstanding⟩

end Runs

/--
Whenever the data source is asked for a key that is in the cache, the call has
asked another node before, which has just failed, and what the cache has was
returned by the data source while that node was being asked.
-/
theorem cached_key_loaded_meanwhile (name : String) (budget : Nat) (history : List Action)
    (last : Action) :
    let start := empty name budget
    let group := (start.run history).1
    ∀ call key, .load call key ∈ (group.advance last).2 →
      ∀ entry ∈ (group.advance last).1.cache.entries, entry.key = key →
        ∃ choose address elapsed causes,
          last = .step choose (.fetched call elapsed (.error causes)) ∧
          Outstanding start history (.fetch call address key) ∧
          LoadedMeanwhile start (.fetch call address key) key entry.value history := by
  intro start group call key asked entry present named
  cases last with
  | attach =>
      rw [effects_attach] at asked
      cases asked
  | step choose event =>
      obtain ⟨rfl, lookup, base, first, seeks, cache⟩ :=
        (transition choose group event).load_asked asked
      cases seeks with
      | lookup misses | peer misses => exact absurd named (misses.uncached cache entry present)
      | failed elapsed causes found =>
          have waits := asked?_of_found found
          rw [advance, cache] at present
          exact ⟨choose, _, elapsed, causes, rfl, ((asked?_run name budget history _ _).mp waits).2,
            loadedMeanwhile_run name budget history waits present named⟩

/-- A node fails after the data source has returned the value for another node. -/
theorem cached_key_loaded_meanwhile_failed_node :
    let choose : Choice := fun _ => (some "http://b:13579", [])
    let start := empty "g" 0
    let history : List Action := [.attach, .step choose (.get 1 "k"),
      .step choose (.getForPeer 2 "k"), .step choose (.loaded 2 (.ok [7]))]
    let last : Action := .step choose (.fetched 1 ⟨5⟩ (.error ["down"]))
    .load 1 "k" ∈ ((start.run history).1.advance last).2 ∧
      ⟨"k", 2, [7]⟩ ∈ ((start.run history).1.advance last).1.cache.entries ∧
      ∃ address, LoadedMeanwhile start (.fetch 1 address "k") "k" [7] history := by
  intro choose start history last
  have asked : .load 1 "k" ∈ ((start.run history).1.advance last).2 := by decide
  have cached : ⟨"k", 2, [7]⟩ ∈ ((start.run history).1.advance last).1.cache.entries := by decide
  obtain ⟨-, address, -, -, -, -, loaded⟩ :=
    cached_key_loaded_meanwhile "g" 0 history last 1 "k" asked ⟨"k", 2, [7]⟩ cached rfl
  exact ⟨asked, cached, address, loaded⟩

/-- The data source may be asked for a key that is in the cache. -/
theorem not_only_uncached_loaded :
    ¬ ∀ (name : String) (budget : Nat) (history : List Action) (last : Action) (call : Nat)
      (key : String),
      let group := ((empty name budget).run history).1
      .load call key ∈ (group.advance last).2 →
        ∀ entry ∈ (group.advance last).1.cache.entries, entry.key ≠ key := by
  intro fresh
  let choose : Choice := fun _ => (some "http://b:13579", [])
  let history : List Action := [.attach, .step choose (.get 1 "k"),
    .step choose (.getForPeer 2 "k"), .step choose (.loaded 2 (.ok [7]))]
  let last : Action := .step choose (.fetched 1 ⟨5⟩ (.error ["down"]))
  exact fresh "g" 0 history last 1 "k" (by decide) ⟨"k", 2, [7]⟩ (by decide) rfl

end ReadThrough.Group
