import Mathlib.Data.List.Find
import ReadThrough.Cache.Basic

/-!
# What a cache contains

Reading and storing never make up an entry: what a cache contains was there
before or is the value that has just been stored.
-/

namespace ReadThrough.Cache

variable {α : Type}

/-- Every value in the cache is right for its key. -/
def Holds (right : String → α → Prop) (cache : Cache α) : Prop :=
  ∀ entry ∈ cache.entries, right entry.key entry.value

theorem mem_of_mem_others {entries : List (Entry α)} {key : String} {entry : Entry α}
    (present : entry ∈ others entries key) : entry ∈ entries :=
  (List.mem_filter.mp present).1

theorem find?_some {cache : Cache α} {key : String} {entry : Entry α}
    (found : cache.find? key = some entry) : entry ∈ cache.entries ∧ entry.key = key := by
  constructor
  · exact List.mem_of_find?_eq_some found
  · simpa using List.find?_some found

theorem value_get (cache : Cache α) (key : String) :
    (cache.get key).1 = (cache.find? key).map Entry.value := by
  rw [get]
  cases cache.find? key with
  | none => rfl
  | some entry => rfl

theorem find?_others (entries : List (Entry α)) (key other : String) :
    (others entries key).find? (fun entry => entry.key = other) =
      if other = key then none else entries.find? fun entry => entry.key = other := by
  rw [others, List.find?_filter]
  by_cases removed : other = key
  · subst other
    simp
  · rw [if_neg removed]
    refine List.find?_congr fun entry _ => ?_
    by_cases same : entry.key = other
    · simp [same, removed]
    · simp [same]

theorem get_store [ByteSize α] (cache : Cache α) (stored : String) (value : α) (key : String) :
    ((cache.store stored value).get key).1 =
      if stored = key then some value else (cache.get key).1 := by
  rw [value_get, value_get, find?, store, List.find?_append, find?_others]
  by_cases same : stored = key
  · simp [same]
  · simp [same, Ne.symm same, find?]

/-- Reading changes nothing about what is found. -/
theorem get_get (cache : Cache α) (read key : String) :
    ((cache.get read).2.get key).1 = (cache.get key).1 := by
  rw [value_get, value_get, get]
  cases found : cache.find? read with
  | none => rfl
  | some entry =>
      obtain ⟨-, named⟩ := find?_some found
      simp only [find?, List.find?_append, find?_others]
      by_cases same : key = read
      · subst same
        simp [named, ← found, find?]
      · simp [same, named, Ne.symm same]

theorem get_remove (cache : Cache α) (removed key : String) :
    ((cache.remove removed).2.get key).1 =
      if removed = key then none else (cache.get key).1 := by
  rw [value_get, value_get, remove]
  cases found : cache.find? removed with
  | none =>
      by_cases same : removed = key
      · subst same
        rw [if_pos rfl]
        exact congrArg (Option.map Entry.value) found
      · rw [if_neg same]
        rfl
  | some entry =>
      simp only [find?, find?_others]
      by_cases same : removed = key
      · simp [same]
      · simp [same, Ne.symm same]

theorem mem_enforceFrom {cache : Cache α} {entries : List (Entry α)} {entry : Entry α}
    (present : entry ∈ (cache.enforceFrom entries).1.entries) : entry ∈ entries := by
  induction entries generalizing cache with
  | nil => exact present
  | cons oldest rest ih =>
      rw [enforceFrom] at present
      split at present
      · exact List.mem_cons_of_mem _ (ih present)
      · exact present

/-- Reading brings no new entry. -/
theorem mem_get {cache : Cache α} {key : String} {entry : Entry α}
    (present : entry ∈ (cache.get key).2.entries) : entry ∈ cache.entries := by
  rw [get] at present
  split at present
  · rename_i used found
    rcases List.mem_append.mp present with old | same
    · exact mem_of_mem_others old
    · rw [List.mem_singleton.mp same]
      exact (find?_some found).1
  · exact present

/-- Storing a value brings no other new entry and replaces that of the key. -/
theorem mem_put [ByteSize α] {cache : Cache α} {key : String} {value : α} {entry : Entry α}
    (present : entry ∈ (cache.put key value).1.entries) :
    (entry ∈ cache.entries ∧ entry.key ≠ key) ∨ (entry.key = key ∧ entry.value = value) := by
  have stored : entry ∈ (cache.store key value).entries := mem_enforceFrom present
  rcases List.mem_append.mp stored with old | same
  · exact Or.inl (by simpa [others] using old)
  · rw [List.mem_singleton.mp same]
    exact Or.inr ⟨rfl, rfl⟩

namespace Holds

variable {right other : String → α → Prop} {cache : Cache α}

theorem empty (budget : Nat) : (Cache.empty budget : Cache α).Holds right := by
  intro entry present
  cases present

theorem mono (holds : cache.Holds right) (weaker : ∀ key value, right key value → other key value) :
    cache.Holds other := by
  intro entry present
  exact weaker _ _ (holds entry present)

theorem get (holds : cache.Holds right) (key : String) : (cache.get key).2.Holds right :=
  fun entry present => holds entry (mem_get present)

theorem value (holds : cache.Holds right) {key : String} {value : α}
    (found : (cache.get key).1 = some value) : right key value := by
  rw [Cache.get] at found
  split at found
  · rename_i entry present
    obtain ⟨stored, rfl⟩ := find?_some present
    cases found
    exact holds entry stored
  · cases found

theorem put [ByteSize α] (holds : cache.Holds right) {key : String} {value : α}
    (new : right key value) : (cache.put key value).1.Holds right := by
  intro entry present
  rcases mem_put present with ⟨old, -⟩ | ⟨rfl, rfl⟩
  · exact holds entry old
  · exact new

end Holds

end ReadThrough.Cache
