import ReadThrough.Cluster.Timeline
import ReadThrough.Group.Hosted

/-!
# Simulated clusters

A cluster whose groups have data sources, and which goes on from one bundle of
timed calls to the next.
-/

namespace ReadThrough.Cluster

open ReadThrough.Group (Hosted)

structure Simulation where
  cluster : Cluster
  around : Surroundings
  /-- The keys for which a data source was reached. -/
  lookedUp : List String

namespace Simulation

/-- Nodes without groups, which reach nobody outside, and each other at once. -/
def start (pickers : List Peer.Picker) : Simulation where
  cluster := .ofNodes pickers
  around := ⟨[], fun _ _ => none, 0⟩
  lookedUp := []

def withCluster (simulation : Simulation) (cluster : Cluster) : Simulation :=
  { simulation with cluster }

def withOutside (simulation : Simulation)
    (outside : String → Http.Target → Option (Nat × Except Causes Bytes)) : Simulation :=
  { simulation with around := { simulation.around with outside } }

def withLatency (simulation : Simulation) (latency : Nat) : Simulation :=
  { simulation with around := { simulation.around with latency } }

def register (simulation : Simulation) (node : Nat) (hosted : Hosted) : Simulation × List Log :=
  let (cluster, reports) := simulation.cluster.register node hosted.group
  let sources := simulation.around.sources ++ [hosted.source]
  ({ simulation with cluster, around := { simulation.around with sources } }, reports)

def group? (simulation : Simulation) (node : Nat) (name : String) : Option Group :=
  simulation.cluster.group? node name

def run (simulation : Simulation) (plan : List TimedCall) : Simulation × Timeline.State :=
  let state := Timeline.run simulation.around simulation.cluster plan
  ({ simulation with
      cluster := state.cluster
      lookedUp := simulation.lookedUp ++ state.lookedUp },
    state)

def call (simulation : Simulation) (node : Nat) (group key : String) (forPeer : Bool) :
    Simulation × Option TimedEnd × Timeline.State :=
  let (next, state) := simulation.run [⟨node, group, key, forPeer, 0, none⟩]
  (next, Ordered.get? 0 state.ends, state)

end Simulation

end ReadThrough.Cluster
