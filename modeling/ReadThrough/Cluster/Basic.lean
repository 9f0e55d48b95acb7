import ReadThrough.Group.Step
import ReadThrough.Peer.Picker

/-!
# Clusters

Several nodes, each with its groups and its view of the members, and the calls
and fetches that are under way between them.  A group that is replaced by
another one of the same name goes on with the calls that it has.
-/

namespace ReadThrough

namespace Cluster

/-- A node with the numbers of its groups, in ascending order of the names. -/
structure Node where
  picker : Peer.Picker
  registry : List (String × Nat)
  deriving Inhabited

structure Member where
  group : Group
  node : Nat
  deriving Inhabited

/-- A call with the number of its group; a call for another node belongs to a fetch. -/
structure Call where
  member : Nat
  /-- The call whose fetch is answered by this one. -/
  fetcher : Option Nat
  deriving DecidableEq, Repr

inductive Transit where
  | travelling (address group key : String)
  /-- Another call computes the answer. -/
  | serving (call : Nat)
  | answered (result : Except Causes Bytes)
  deriving DecidableEq

end Cluster

/-- The nodes and groups, the calls that have not ended, and the fetches of these calls. -/
structure Cluster where
  nodes : List Cluster.Node
  members : List Cluster.Member
  calls : List (Nat × Cluster.Call)
  /-- The fetches by the calls that wait for them. -/
  transits : List (Nat × Cluster.Transit)
  issued : Nat
  /-- The addresses that cannot be reached. -/
  down : List String
  deriving Inhabited

namespace Cluster

def ofNodes (pickers : List Peer.Picker) : Cluster where
  nodes := pickers.map fun picker => ⟨picker, []⟩
  members := []
  calls := []
  transits := []
  issued := 0
  down := []

def find? (cluster : Cluster) (node : Nat) (name : String) : Option Nat := do
  let node ← cluster.nodes[node]?
  Ordered.get? name node.registry

def group? (cluster : Cluster) (node : Nat) (name : String) : Option Group := do
  let member ← cluster.find? node name
  return (← cluster.members[member]?).group

def groupsOf (cluster : Cluster) (node : Nat) : List Group :=
  match cluster.nodes[node]? with
  | some node =>
    node.registry.filterMap fun (_, member) => (cluster.members[member]?).map Member.group
  | none => []

def registerReport (name : String) (replaced : Bool) : Log :=
  if replaced then .warn ("Group " ++ name ++ " has been replaced by a new instance.")
  else .info ("Group " ++ name ++ " has been registered.")

def register (cluster : Cluster) (node : Nat) (group : Group) : Cluster × List Log :=
  match cluster.nodes[node]? with
  | some home =>
    let registry := Ordered.put group.name cluster.members.length home.registry
    ({ cluster with
        nodes := cluster.nodes.set node { home with registry }
        members := cluster.members ++ [⟨group, node⟩] },
      [registerReport group.name (Ordered.get? group.name home.registry).isSome])
  | none => (cluster, [])

def setPicker (cluster : Cluster) (node : Nat) (picker : Peer.Picker) : Cluster :=
  { cluster with
    nodes := cluster.nodes.modify node fun home => { home with picker } }

def pool? (cluster : Cluster) (node : Nat) : Option Peer.Pool := do
  match (← cluster.nodes[node]?).picker with
  | .pool pool => some pool
  | .fixed _ => none

def applySettings (cluster : Cluster) (node : Nat) (settings : Peer.Settings)
    (members : List String) : Cluster × List Log :=
  match cluster.pool? node with
  | some pool =>
    let (pool, reports) := pool.apply settings members
    (cluster.setPicker node (.pool pool), reports)
  | none => (cluster, [])

def setMembers (cluster : Cluster) (node : Nat) (members : List String) : Cluster × List Log :=
  match cluster.pool? node with
  | some pool => cluster.applySettings node pool.settings members
  | none => (cluster, [])

def goDown (cluster : Cluster) (address : String) : Cluster :=
  { cluster with down := address :: cluster.down }

def goUp (cluster : Cluster) (address : String) : Cluster :=
  { cluster with down := cluster.down.filter fun other => other ≠ address }

def attach (cluster : Cluster) (member : Nat) : Except LoadError Cluster :=
  match cluster.members[member]? with
  | some home => do
    let group ← home.group.attach
    return { cluster with members := cluster.members.set member { home with group } }
  | none => .ok cluster

end Cluster

end ReadThrough
