import ReadThrough.Cache.Basic

/-!
# Accounting in machine words

The operations of a cache with the sizes as words of 64 bits.  The change that
a new entry makes to the allocated memory is a signed word.  An operation that
leaves the range of its words, or that finds nothing to evict, is a fault; it
never happens as long as the sum of the charged sizes fits a signed word.
-/

namespace ReadThrough.Cache.Word

variable {α : Type}

inductive Fault where
  | addition
  | subtraction
  /-- The budget is exceeded although the cache is empty. -/
  | nothingToEvict
  deriving DecidableEq, Repr

def Fault.message : Fault → String
  | .addition => "attempt to add with overflow"
  | .subtraction => "attempt to subtract with overflow"
  | .nothingToEvict =>
    "internal error: entered unreachable code: " ++
      "Failed to enforce constraints of a LRU cache!"

def unsignedLimit : Nat := 1 <<< 64

def signedLimit : Int := (1 <<< 63 : Nat)

def toSigned (word : Nat) : Int :=
  if (word : Int) < signedLimit then word else word - unsignedLimit

def toUnsigned (word : Int) : Nat :=
  (if word < 0 then word + unsignedLimit else word).toNat

/-- A signed number, unless it leaves the range of signed words. -/
def signed (fault : Fault) (value : Int) : Except Fault Int :=
  if -signedLimit ≤ value ∧ value < signedLimit then .ok value else .error fault

def add (left right : Nat) : Except Fault Nat :=
  if left + right < unsignedLimit then .ok (left + right) else .error .addition

def subtract (left right : Nat) : Except Fault Nat :=
  if right ≤ left then .ok (left - right) else .error .subtraction

def enforceFrom (cache : Cache α) :
    List (Entry α) → Except Fault (Cache α × List (Eviction α))
  | [] =>
    if cache.exceeds then .error .nothingToEvict else .ok ({ cache with entries := [] }, [])
  | oldest :: rest =>
    if cache.exceeds then do
      let allocated ← subtract cache.allocated oldest.size
      let next :=
        { cache with
          entries := rest
          allocated
          evictions := cache.evictions + 1 }
      let (final, evicted) ← enforceFrom next rest
      return (final, ⟨oldest.key, oldest.value, next⟩ :: evicted)
    else .ok ({ cache with entries := oldest :: rest }, [])

def enforce (cache : Cache α) : Except Fault (Cache α × List (Eviction α)) :=
  enforceFrom cache cache.entries

/-- The change that an entry of the given size for a key makes to the allocated memory. -/
def changeBy (cache : Cache α) (key : String) (size : Nat) : Except Fault Int :=
  match cache.find? key with
  | some stale => signed .subtraction (toSigned size - toSigned stale.size)
  | none => .ok (toSigned size)

def put [ByteSize α] (cache : Cache α) (key : String) (value : α) :
    Except Fault (Cache α × List (Eviction α)) := do
  let size ← add key.utf8ByteSize (byteSize value)
  let change ← changeBy cache key size
  let allocated ← signed .addition (toSigned cache.allocated + change)
  enforce
    { cache with
      entries := others cache.entries key ++ [⟨key, size, value⟩]
      allocated := toUnsigned allocated
      writes := cache.writes + 1 }

def remove (cache : Cache α) (key : String) : Except Fault (Option α × Cache α) :=
  match cache.find? key with
  | some entry => do
    let allocated ← subtract cache.allocated entry.size
    return (some entry.value,
      { cache with
        entries := others cache.entries key
        allocated
        writes := cache.writes + 1 })
  | none => .ok (none, { cache with writes := cache.writes + 1 })

def setBudget (cache : Cache α) (budget : Nat) :
    Except Fault (Cache α × List (Eviction α)) :=
  enforce { cache with budget }

end ReadThrough.Cache.Word
