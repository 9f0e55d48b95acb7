import Mathlib.Data.List.Basic
import ReadThrough.Proofs.Server.Answering

/-!
# What the statistics tell

The statistics of a node name the node and its members, and list the groups that
are registered there, each once under its name and with its own numbers.
-/

namespace ReadThrough

namespace Cluster

/-! ## The groups of a node -/

section

variable (cluster : Cluster)

theorem nodes_stepMember (member : Nat) (event : Group.Event) :
    (cluster.stepMember member event).1.nodes = cluster.nodes := by
  cases found : cluster.members[member]? with
  | none => rw [stepMember, found]
  | some home => exact (reaction found event).kept.1

theorem nodes_stepCall (call : Nat) (event : Group.Event) :
    (cluster.stepCall call event).1.nodes = cluster.nodes := by
  rw [stepCall]
  split
  · exact nodes_stepMember cluster _ event
  · rfl

theorem nodes_request (node : Nat) (name : String) (event : Nat → Group.Event) :
    (cluster.request node name event).1.nodes = cluster.nodes := by
  rw [request]
  split
  · exact nodes_stepMember (cluster.opened _ none) _ _
  · rfl

theorem nodes_deliver (fetcher node : Nat) (name key : String) :
    (cluster.deliver fetcher node name key).1.nodes = cluster.nodes := by
  rw [deliver]
  split
  · rfl
  · exact nodes_stepMember ((cluster.setTransit fetcher _).opened _ (some fetcher)) _ _

theorem nodes_abandon (call : Nat) : (cluster.abandon call).1.nodes = cluster.nodes :=
  nodes_stepCall cluster call _

/-- No event changes which groups the nodes have. -/
theorem nodes_step (event : Event) : (cluster.step event).1.nodes = cluster.nodes := by
  cases event with
  | get node name key => exact nodes_request cluster node name _
  | getForPeer node name key => exact nodes_request cluster node name _
  | arrive call =>
      rw [step]
      split
      · rename_i address name key _
        rcases serve_cases cluster call address name key with ⟨causes, same⟩ | ⟨node, -, same⟩
        · rw [same]
          rfl
        · rw [same]
          exact nodes_deliver cluster call node name key
      · rfl
  | respond call result =>
      rw [step]
      split <;> rfl
  | receive call elapsed =>
      rw [step]
      split
      · exact nodes_stepCall _ call _
      · rfl
  | loaded call result => exact nodes_stepCall cluster call _
  | resume call => exact nodes_stepCall cluster call _
  | drop call =>
      rw [step]
      split
      · exact (nodes_abandon _ call).trans (nodes_abandon cluster _)
      · exact nodes_abandon cluster call

theorem nodes_attach {member : Nat} {next : Cluster} (attached : cluster.attach member = .ok next) :
    next.nodes = cluster.nodes := by
  rw [attach] at attached
  split at attached
  · rw [Group.attach] at attached
    split at attached <;> cases attached
    rfl
  · cases attached
    rfl

end

/-- Each node has its groups in the order of their names. -/
def Listed (cluster : Cluster) : Prop :=
  ∀ (node : Nat) (host : Node), cluster.nodes[node]? = some host → Ordered.Ascending host.registry

namespace Listed

variable {cluster : Cluster} (listed : cluster.Listed)

theorem ofNodes (pickers : List Peer.Picker) : (Cluster.ofNodes pickers).Listed := by
  intro node host present
  obtain ⟨picker, -, rfl⟩ := List.mem_map.mp (List.mem_of_getElem? present)
  exact .nil

include listed

theorem of_nodes {next : Cluster} (nodes : next.nodes = cluster.nodes) : next.Listed := by
  intro node host present
  exact listed node host (nodes ▸ present)

theorem setPicker (node : Nat) (picker : Peer.Picker) : (cluster.setPicker node picker).Listed := by
  intro other host present
  rw [Cluster.setPicker, List.getElem?_modify] at present
  obtain ⟨old, stored, rfl⟩ := Option.map_eq_some_iff.mp present
  split
  · exact listed other old stored
  · exact listed other old stored

theorem applySettings (node : Nat) (settings : Peer.Settings) (members : List String) :
    (cluster.applySettings node settings members).1.Listed := by
  rw [Cluster.applySettings]
  split
  · exact listed.setPicker node _
  · exact listed

theorem register (node : Nat) (group : Group) : (cluster.register node group).1.Listed := by
  rw [Cluster.register]
  split
  · rename_i home found
    intro other host present
    rw [List.getElem?_set] at present
    split at present
    · split at present
      · cases present
        exact (listed node home found).put _ _
      · cases present
    · exact listed other host present
  · exact listed

theorem undergo (occurrence : Occurrence) : (cluster.undergo occurrence).1.Listed := by
  cases occurrence with
  | reach call node =>
      rw [Cluster.undergo, reach]
      split
      · exact listed.of_nodes (nodes_deliver cluster call node _ _)
      · exact listed
  | move move =>
      cases move with
      | event event => exact listed.of_nodes (nodes_step cluster event)
      | breakOff call causes =>
          rw [Cluster.undergo, make, breakOff]
          split
          · exact listed.of_nodes rfl
          · exact listed
      | applySettings node settings members => exact listed.applySettings node settings members
      | setMembers node members =>
          change (cluster.setMembers node members).1.Listed
          rw [setMembers]
          split
          · exact listed.applySettings node _ members
          · exact listed
      | goDown | goUp => exact listed.of_nodes rfl
      | register node name budget => exact listed.register node _
      | attach member =>
          rw [Cluster.undergo, make]
          split
          · rename_i next attached
            exact listed.of_nodes (nodes_attach cluster attached)
          · exact listed

theorem undergoAll (history : List Occurrence) : (cluster.undergoAll history).1.Listed := by
  induction history generalizing cluster with
  | nil => exact listed
  | cons occurrence history ih => exact ih (listed.undergo occurrence)

end Listed

theorem group?_eq_some {cluster : Cluster} {node : Nat} {name : String} {group : Group} :
    cluster.group? node name = some group ↔ ∃ member home,
      cluster.find? node name = some member ∧ cluster.members[member]? = some home ∧
        home.group = group := by
  simp [group?, Option.bind_eq_some_iff]

section

variable {right : String → String → Outcome → Prop} {asked : Nat → String × String}
  {cluster : Cluster} (coherent : Coherent right asked cluster)

include coherent

theorem names_groupsOf {node : Nat} {host : Node} (present : cluster.nodes[node]? = some host)
    (listed : Ordered.Ascending host.registry) :
    (cluster.groupsOf node).map Group.name = host.registry.map Prod.fst := by
  simp only [groupsOf, present, List.map_filterMap]
  refine List.filterMap_eq_map_iff_forall_eq_some.mpr fun entry mem => ?_
  obtain ⟨home, stored, named⟩ := coherent.registered node entry.1 entry.2
    (find?_eq_some.mpr ⟨host, present, listed.mem_iff.mp mem⟩)
  simp [stored, named]

/-- The groups of a node are those that are found there under their names. -/
theorem mem_groupsOf (listed : cluster.Listed) {node : Nat} {group : Group} :
    group ∈ cluster.groupsOf node ↔ cluster.group? node group.name = some group := by
  rw [group?_eq_some]
  cases present : cluster.nodes[node]? with
  | none => simp [groupsOf, find?, present]
  | some host =>
      have ascending := listed node host present
      have known (name : String) (member : Nat) :
          (name, member) ∈ host.registry ↔ cluster.find? node name = some member := by
        rw [ascending.mem_iff, find?_eq_some]
        simp [present]
      simp only [groupsOf, present, List.mem_filterMap, Option.map_eq_some_iff]
      constructor
      · rintro ⟨⟨name, member⟩, entry, home, stored, rfl⟩
        have found := (known name member).mp entry
        obtain ⟨other, again, rfl⟩ := coherent.registered node name member found
        cases stored.symm.trans again
        exact ⟨member, home, found, stored, rfl⟩
      · rintro ⟨member, home, found, stored, same⟩
        exact ⟨(group.name, member), (known group.name member).mpr found, home, stored, same⟩

end

end Cluster

namespace Server

theorem Exchange.listed_run (pickers : List Peer.Picker) (happenings : List Happening) :
    ((start pickers).run happenings).next.cluster.Listed := by
  have listed := (Cluster.Listed.ofNodes pickers).undergoAll ((start pickers).history happenings)
  rwa [show Cluster.ofNodes pickers = (start pickers).cluster from rfl, undergoAll_history]
    at listed

/-- The numbers that are told of a group are its own. -/
structure GroupStatistics.Describes (told : GroupStatistics) (group : Group) : Prop where
  name : told.name = group.name
  entries : told.entries = group.cache.entries.length
  allocated : told.allocated = group.cache.allocated
  allocatedText : told.allocatedText = Size.text group.cache.allocated
  budget : told.budget = group.cache.budget
  reads : told.reads = group.cache.reads
  writes : told.writes = group.cache.writes
  evictions : told.evictions = group.cache.evictions
  hitRate : told.hitRate = group.cache.hitRate
  localLoads : told.localLoads = group.localLoads
  peerLoads : told.peerLoads = group.peerLoads
  peerErrors : told.peerErrors = group.peerErrors
  latencyText : told.latencyText = group.latency.text

theorem GroupStatistics.of_describes (group : Group) : (of group).Describes group := by
  constructor <;> rfl

/--
The statistics tell the address and the members of the pool, and each group of
the node under its name, in the order of the names, and nothing else.
-/
structure Statistics.Describes (told : Statistics) (pool : Option Peer.Pool) (cluster : Cluster)
    (node : Nat) : Prop where
  address : told.node = pool.elim "" fun pool => pool.settings.self
  members : told.members = pool.elim [] fun pool => pool.members
  ascending : (told.groups.map GroupStatistics.name).Pairwise (· < ·)
  complete : ∀ name group, cluster.group? node name = some group →
    ∃ numbers ∈ told.groups, numbers.name = name ∧ numbers.Describes group
  sound : ∀ numbers ∈ told.groups, ∃ group,
    cluster.group? node numbers.name = some group ∧ numbers.Describes group

/-- Whatever has happened in a cluster, the statistics of each node tell how it is now. -/
theorem Statistics.of_describes {right : String → String → Outcome → Prop}
    {asked : Nat → String × String} {cluster : Cluster}
    (coherent : Cluster.Coherent right asked cluster) (listed : cluster.Listed)
    (pool : Option Peer.Pool) (node : Nat) :
    (of pool (cluster.groupsOf node)).Describes pool cluster node := by
  refine ⟨?_, ?_, ?_, fun name group found => ?_, fun numbers present => ?_⟩
  · cases pool <;> rfl
  · cases pool <;> rfl
  · have names : (of pool (cluster.groupsOf node)).groups.map GroupStatistics.name =
        (cluster.groupsOf node).map Group.name := List.map_map
    rw [names]
    cases present : cluster.nodes[node]? with
    | none => simp [Cluster.groupsOf, present]
    | some host =>
        have ascending := listed node host present
        rw [Cluster.names_groupsOf coherent present ascending]
        exact List.pairwise_map.mpr ascending
  · obtain ⟨member, home, registered, stored, rfl⟩ := Cluster.group?_eq_some.mp found
    obtain ⟨other, again, named⟩ := coherent.registered node name member registered
    cases stored.symm.trans again
    have present := (Cluster.mem_groupsOf coherent listed).mpr (named ▸ found)
    exact ⟨.of home.group, List.mem_map_of_mem present, named, GroupStatistics.of_describes home.group⟩
  · obtain ⟨group, own, rfl⟩ := List.mem_map.mp present
    exact ⟨group, (Cluster.mem_groupsOf coherent listed).mp own,
      GroupStatistics.of_describes group⟩

end Server

end ReadThrough
