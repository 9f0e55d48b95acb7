import ReadThrough.Numeric.Binary32
import ReadThrough.Text.Utf8

/-!
# Cache with a memory budget

A map from keys to values which remembers the order of the last uses.  Each
entry is charged with the bytes of its key and its value.  Once the charged
sizes exceed the budget, the entries that were not used for the longest time
are evicted; every eviction is reported.
-/

namespace ReadThrough

class ByteSize (α : Type) where
  byteSize : α → Nat

export ByteSize (byteSize)

instance : ByteSize String := ⟨String.utf8ByteSize⟩

instance : ByteSize Bytes := ⟨List.length⟩

namespace Cache

structure Entry (α : Type) where
  key : String
  size : Nat
  value : α
  deriving DecidableEq, Repr

end Cache

/-- The entries in the order of their last use, the most recent one at the end. -/
structure Cache (α : Type) where
  entries : List (Cache.Entry α)
  /-- The sum of the charged sizes. -/
  allocated : Nat
  /-- The greatest sum of charged sizes that is kept; zero stands for no limit. -/
  budget : Nat
  reads : Nat
  hits : Nat
  writes : Nat
  evictions : Nat
  deriving DecidableEq, Repr

namespace Cache

variable {α : Type}

/-- An entry that was evicted, and the cache right after that. -/
structure Eviction (α : Type) where
  key : String
  value : α
  cache : Cache α

def empty (budget : Nat) : Cache α := ⟨[], 0, budget, 0, 0, 0, 0⟩

instance : Inhabited (Cache α) := ⟨empty 0⟩

def chargedSize [ByteSize α] (key : String) (value : α) : Nat :=
  key.utf8ByteSize + byteSize value

def find? (cache : Cache α) (key : String) : Option (Entry α) :=
  cache.entries.find? fun entry => entry.key = key

def others (entries : List (Entry α)) (key : String) : List (Entry α) :=
  entries.filter fun entry => entry.key ≠ key

def exceeds (cache : Cache α) : Bool :=
  cache.budget != 0 && cache.budget < cache.allocated

def withoutOldest (cache : Cache α) (oldest : Entry α) (rest : List (Entry α)) : Cache α :=
  { cache with
    entries := rest
    allocated := cache.allocated - oldest.size
    evictions := cache.evictions + 1 }

/-- Evict the oldest of the given entries as long as the budget is exceeded. -/
def enforceFrom (cache : Cache α) : List (Entry α) → Cache α × List (Eviction α)
  | [] => ({ cache with entries := [] }, [])
  | oldest :: rest =>
    if cache.exceeds then
      let next := cache.withoutOldest oldest rest
      let (final, evicted) := enforceFrom next rest
      (final, ⟨oldest.key, oldest.value, next⟩ :: evicted)
    else ({ cache with entries := oldest :: rest }, [])

def enforce (cache : Cache α) : Cache α × List (Eviction α) :=
  cache.enforceFrom cache.entries

/-- The cache after storing a value, before anything is evicted. -/
def store [ByteSize α] (cache : Cache α) (key : String) (value : α) : Cache α :=
  let size := chargedSize key value
  let replaced := ((cache.find? key).map Entry.size).getD 0
  { cache with
    entries := others cache.entries key ++ [⟨key, size, value⟩]
    allocated := cache.allocated + size - replaced
    writes := cache.writes + 1 }

def put [ByteSize α] (cache : Cache α) (key : String) (value : α) :
    Cache α × List (Eviction α) :=
  (cache.store key value).enforce

def get (cache : Cache α) (key : String) : Option α × Cache α :=
  match cache.find? key with
  | some entry =>
    (some entry.value,
      { cache with
        entries := others cache.entries key ++ [entry]
        reads := cache.reads + 1
        hits := cache.hits + 1 })
  | none => (none, { cache with reads := cache.reads + 1 })

def remove (cache : Cache α) (key : String) : Option α × Cache α :=
  match cache.find? key with
  | some entry =>
    (some entry.value,
      { cache with
        entries := others cache.entries key
        allocated := cache.allocated - entry.size
        writes := cache.writes + 1 })
  | none => (none, { cache with writes := cache.writes + 1 })

def flush (cache : Cache α) : Cache α := empty cache.budget

def setBudget (cache : Cache α) (budget : Nat) : Cache α × List (Eviction α) :=
  { cache with budget }.enforce

/-- The allocated memory in percent of the budget; zero without a budget. -/
def utilization (cache : Cache α) : Numeric.Binary32 :=
  if cache.budget = 0 then .zero else .percentage cache.allocated cache.budget

/-- The reads that found a value, in percent; zero without reads. -/
def hitRate (cache : Cache α) : Numeric.Binary32 :=
  if cache.reads = 0 then .zero else .percentage cache.hits cache.reads

end Cache

end ReadThrough
