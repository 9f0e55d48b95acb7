import ReadThrough.Average
import ReadThrough.Cache.Basic
import ReadThrough.Flight.Basic
import ReadThrough.Group.LoadError
import ReadThrough.Ordered

/-!
# Groups

A group is a named cache in front of a data source.  Its callers read through
the cache: a missing value is fetched from the node to which the key belongs,
or loaded from the data source of the group.  Calls for one key share one
lookup, and all lookups that need the data source share one run of it.
-/

namespace ReadThrough

namespace Group

inductive Stage where
  /-- It waits for the lookup that another call leads. -/
  | joined (ticket : Nat)
  /-- It leads a lookup and waits for another node. -/
  | fetching (ticket : Nat) (address : String)
  /-- It waits for the data source run by another call; it leads the lookup, if any. -/
  | waiting (lookup : Option Nat) (ticket : Nat)
  /-- It runs the data source; it leads the lookup, if any. -/
  | loading (lookup : Option Nat) (ticket : Nat)
  deriving DecidableEq, Repr

structure Caller where
  key : String
  stage : Stage
  deriving DecidableEq, Repr

end Group

/-- The cache of a group, the lookups in flight and the numbers of what was done. -/
structure Group where
  name : String
  cache : Cache Bytes
  /-- Whether the group asks for the node to which a key belongs. -/
  attached : Bool
  lookups : Flight Outcome
  sourceRuns : Flight Outcome
  localLoads : Nat
  peerLoads : Nat
  peerErrors : Nat
  latency : Average
  /-- The calls that have not ended, by their numbers. -/
  callers : List (Nat × Group.Caller)
  deriving DecidableEq, Repr

namespace Group

def empty (name : String) (budget : Nat) : Group where
  name
  cache := .empty budget
  attached := false
  lookups := .empty
  sourceRuns := .empty
  localLoads := 0
  peerLoads := 0
  peerErrors := 0
  latency := .empty
  callers := []

instance : Inhabited Group := ⟨empty "" 0⟩

def build (name : String) (budget : Nat) (hasSource : Bool) : Except LoadError Group :=
  if name.isEmpty then .error (.configuration "a group requires a name")
  else if !hasSource then
    .error (.configuration ("no getter was given for group " ++ name))
  else .ok (empty name budget)

/-- Let the group ask for the node to which a key belongs, which is done once. -/
def attach (group : Group) : Except LoadError Group :=
  if group.attached then
    .error (.configuration ("peers have already been registered for group " ++ group.name))
  else .ok { group with attached := true }

/-- The number of fetches from other nodes that have ended. -/
def peerFetches (group : Group) : Nat := group.latency.recorded

def setStage (group : Group) (call : Nat) (key : String) (stage : Stage) : Group :=
  { group with callers := Ordered.put call ⟨key, stage⟩ group.callers }

def forget (group : Group) (call : Nat) : Group :=
  { group with callers := group.callers.filter fun caller => caller.1 ≠ call }

def caller? (group : Group) (call : Nat) : Option Caller :=
  Ordered.get? call group.callers

end Group

end ReadThrough
