import ReadThrough.Group.Basic
import ReadThrough.Log
import ReadThrough.Text.Utf8

/-!
# Groups as nodes host them

A data source is a table of records with the time that it takes to look them up.
A node hosts groups with their data sources.  Its registry has them in ascending
order of their names; a group takes the place of an earlier one of its name.
-/

namespace ReadThrough

/-- A data source; an unknown key may stand for itself. -/
structure Source where
  records : List (String × Except Causes Bytes)
  echoes : Bool
  /-- The milliseconds that a lookup takes. -/
  delay : Nat
  /-- The milliseconds that the lookup of a particular key takes. -/
  delays : List (String × Nat)
  deriving DecidableEq, Inhabited

namespace Source

def empty : Source := ⟨[], false, 0, []⟩

def lookup (source : Source) (key : String) : Except Causes Bytes :=
  match source.records.lookup key with
  | some result => result
  | none => if source.echoes then .ok (Utf8.encode key) else .error [key ++ " not exist"]

def delayOf (source : Source) (key : String) : Nat :=
  (source.delays.lookup key).getD source.delay

def immediate (source : Source) : Source :=
  { source with delay := 0, delays := [] }

end Source

end ReadThrough

namespace ReadThrough.Group

structure Hosted where
  group : Group
  source : Source
  deriving DecidableEq, Inhabited

namespace Hosted

def build (name : String) (budget : Nat) (source : Option Source) : Except LoadError Hosted := do
  let group ← Group.build name budget source.isSome
  return ⟨group, source.getD .empty⟩

/-- The group, asking for the node to which a key belongs. -/
def attached (hosted : Hosted) : Hosted :=
  { hosted with group := { hosted.group with attached := true } }

end Hosted

end ReadThrough.Group

namespace ReadThrough.Node

open ReadThrough.Group (Hosted)

abbrev Registry := List (String × Hosted)

namespace Registry

def register (registry : Registry) (hosted : Hosted) : Registry :=
  Ordered.put hosted.group.name hosted registry

def find? (registry : Registry) (name : String) : Option Hosted :=
  Ordered.get? name registry

def names (registry : Registry) : List String := registry.map Prod.fst

end Registry

end ReadThrough.Node
