import ReadThrough.Group.Basic
import ReadThrough.Peer.Pool
import ReadThrough.Size

/-!
# Statistics

What a node tells about itself, its members and its groups.
-/

namespace ReadThrough.Server

structure GroupStatistics where
  name : String
  entries : Nat
  allocated : Nat
  allocatedText : String
  budget : Nat
  reads : Nat
  writes : Nat
  evictions : Nat
  hitRate : Numeric.Binary32
  localLoads : Nat
  peerLoads : Nat
  peerErrors : Nat
  latencyText : String

structure Statistics where
  /-- The address of the node, which is empty if the node has no pool. -/
  node : String
  members : List String
  groups : List GroupStatistics

def GroupStatistics.of (group : Group) : GroupStatistics where
  name := group.name
  entries := group.cache.entries.length
  allocated := group.cache.allocated
  allocatedText := Size.text group.cache.allocated
  budget := group.cache.budget
  reads := group.cache.reads
  writes := group.cache.writes
  evictions := group.cache.evictions
  hitRate := group.cache.hitRate
  localLoads := group.localLoads
  peerLoads := group.peerLoads
  peerErrors := group.peerErrors
  latencyText := group.latency.text

def Statistics.of (pool : Option Peer.Pool) (groups : List Group) : Statistics where
  node := (pool.map fun pool => pool.settings.self).getD ""
  members := (pool.map Peer.Pool.members).getD []
  groups := groups.map GroupStatistics.of

end ReadThrough.Server
