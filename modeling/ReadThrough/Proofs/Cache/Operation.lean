import ReadThrough.Cache.Word

/-!
# Sequences of cache operations

The operations of a cache as data, so that a statement can be about every
sequence of them, once with plain numbers and once in machine words.
-/

namespace ReadThrough.Cache

variable {α : Type}

inductive Operation (α : Type) where
  | put (key : String) (value : α)
  | get (key : String)
  | remove (key : String)
  | flush
  | setBudget (budget : Nat)
  deriving DecidableEq, Repr

variable [ByteSize α]

def perform (cache : Cache α) : Operation α → Cache α × List (Eviction α)
  | .put key value => cache.put key value
  | .get key => ((cache.get key).2, [])
  | .remove key => ((cache.remove key).2, [])
  | .flush => (cache.flush, [])
  | .setBudget budget => cache.setBudget budget

def run (cache : Cache α) : List (Operation α) → Cache α × List (Eviction α)
  | [] => (cache, [])
  | operation :: operations =>
    let (next, evicted) := cache.perform operation
    let (final, later) := next.run operations
    (final, evicted ++ later)

theorem run_cons (cache : Cache α) (operation : Operation α) (operations : List (Operation α)) :
    cache.run (operation :: operations) =
      (((cache.perform operation).1.run operations).1,
        (cache.perform operation).2 ++ ((cache.perform operation).1.run operations).2) := rfl

namespace Word

def perform (cache : Cache α) : Operation α → Except Fault (Cache α × List (Eviction α))
  | .put key value => put cache key value
  | .get key => .ok ((cache.get key).2, [])
  | .remove key => do
    let (_, next) ← remove cache key
    return (next, [])
  | .flush => .ok (cache.flush, [])
  | .setBudget budget => setBudget cache budget

/-- The sequence of operations in machine words, up to the first fault. -/
def run (cache : Cache α) : List (Operation α) → Except Fault (Cache α × List (Eviction α))
  | [] => .ok (cache, [])
  | operation :: operations => do
    let (next, evicted) ← perform cache operation
    let (final, later) ← run next operations
    return (final, evicted ++ later)

end Word

end ReadThrough.Cache
