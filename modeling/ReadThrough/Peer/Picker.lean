import ReadThrough.Peer.Pool

/-!
# Pickers

A picker names the node that is asked for a key before the data source is: the
owner of the key in a pool, or the node of a fixed assignment.
-/

namespace ReadThrough.Peer

/-- An assignment of keys to addresses that never changes. -/
structure Assignment where
  owners : List (String × String)
  /-- The address of all other keys. -/
  default : Option String
  /-- The addresses of the nodes that exist. -/
  reachable : List String
  deriving DecidableEq, Repr, Inhabited

def Assignment.pick (assignment : Assignment) (key : String) : Option String :=
  ((assignment.owners.lookup key).or assignment.default).filter assignment.reachable.contains

inductive Picker where
  | pool (pool : Pool)
  | fixed (assignment : Assignment)
  deriving Inhabited

namespace Picker

def choose (picker : Picker) (key : String) : Option String × List Log :=
  match picker with
  | .pool members =>
    let (client, reports) := members.pick key
    (client.map Client.address, reports)
  | .fixed assignment => (assignment.pick key, [])

def self? : Picker → Option String
  | .pool members => some members.settings.self
  | .fixed _ => none

end Picker

end ReadThrough.Peer
