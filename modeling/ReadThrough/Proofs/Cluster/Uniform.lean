import ReadThrough.Proofs.Cluster.Coherent
import ReadThrough.Proofs.Group.History
import ReadThrough.Proofs.Peer.Ownership

/-!
# Clusters whose nodes agree

If each node sees the addresses of all nodes and nothing else, then each key
belongs to one node, and every other node picks that one.  Nodes that are told
these addresses form such a cluster.
-/

namespace ReadThrough.Cluster

/-- A key belongs to a node: the rings of all nodes name its address. -/
def Owns (cluster : Cluster) (node : Nat) (key : String) : Prop :=
  ∃ pool, cluster.pool? node = some pool ∧
    ∀ other view, cluster.pool? other = some view →
      view.ring.owner? key = some pool.settings.self

/--
Each node is up, has a pool whose members are the addresses of all nodes, and
has a group of the name that is attached to this pool.
-/
structure Uniform (hash : Peer.Hash) (replicas : Nat) (name : String) (cluster : Cluster) :
    Prop where
  positive : 0 < replicas
  pooled : ∀ node < cluster.nodes.length, ∃ pool, cluster.pool? node = some pool
  reached : ∀ node pool, cluster.pool? node = some pool →
    Peer.Pool.Reached hash pool ∧ pool.settings.replicas = replicas
  members : ∀ node pool, cluster.pool? node = some pool → ∀ address, address ∈ pool.members ↔
    ∃ other view, cluster.pool? other = some view ∧ view.settings.self = address
  distinct : ∀ node other pool view, cluster.pool? node = some pool →
    cluster.pool? other = some view → pool.settings.self = view.settings.self → node = other
  up : ∀ node pool, cluster.pool? node = some pool → pool.settings.self ∉ cluster.down
  hosted : ∀ node < cluster.nodes.length, ∃ member home, cluster.find? node name = some member ∧
    cluster.members[member]? = some home ∧ home.node = node ∧ home.group.attached = true

section

variable {cluster : Cluster} {node : Nat} {pool : Peer.Pool} {key : String}

theorem pool?_eq_some :
    cluster.pool? node = some pool ↔
      ∃ home, cluster.nodes[node]? = some home ∧ home.picker = .pool pool := by
  rw [pool?, Option.bind_eq_bind, Option.bind_eq_some_iff]
  refine exists_congr fun home => and_congr_right fun _ => ?_
  cases home.picker <;> simp

/-- The ways in which nodes choose others are those of their pools. -/
theorem choiceOf_eq {home : Member} (present : cluster.pool? home.node = some pool) (key : String) :
    (cluster.choiceOf home key).1 = (pool.pick key).1.map Peer.Client.address := by
  obtain ⟨host, found, picks⟩ := pool?_eq_some.mp present
  rw [choiceOf, found]
  simp only [picks, Peer.Picker.choose]

/-- What belongs to a node depends on the pools only. -/
theorem owns_congr {other : Cluster} (nodes : other.nodes = cluster.nodes) :
    other.Owns node key ↔ cluster.Owns node key := by
  rw [Owns, Owns]
  simp only [pool?, nodes]

theorem pool?_of_nodeAt? {address : String} (reached : cluster.nodeAt? address = some node) :
    ∃ pool, cluster.pool? node = some pool ∧ pool.settings.self = address := by
  obtain ⟨inside, named, -⟩ := List.findIdx?_eq_some_iff_getElem.mp reached
  cases picks : cluster.nodes[node].picker with
  | pool pool =>
      refine ⟨pool, pool?_eq_some.mpr ⟨_, List.getElem?_eq_getElem inside, picks⟩, ?_⟩
      simpa [picks, Peer.Picker.self?] using named
  | fixed assignment => simp [picks, Peer.Picker.self?] at named

theorem lt_of_find? {name : String} {member : Nat}
    (found : cluster.find? node name = some member) : node < cluster.nodes.length := by
  obtain ⟨home, present, -⟩ := Option.bind_eq_some_iff.mp found
  exact (List.getElem?_eq_some_iff.mp present).1

end

namespace Uniform

variable {hash : Peer.Hash} {replicas : Nat} {name : String} {cluster : Cluster}
  (uniform : cluster.Uniform hash replicas name) {node : Nat} {pool : Peer.Pool} {key : String}

include uniform

theorem nodeAt?_self (present : cluster.pool? node = some pool) :
    cluster.nodeAt? pool.settings.self = some node := by
  obtain ⟨home, found, picks⟩ := pool?_eq_some.mp present
  obtain ⟨inside, rfl⟩ := List.getElem?_eq_some_iff.mp found
  refine List.findIdx?_eq_some_iff_getElem.mpr ⟨inside, by simp [picks, Peer.Picker.self?], ?_⟩
  intro earlier before
  obtain ⟨view, known⟩ := uniform.pooled earlier (Nat.lt_trans before inside)
  obtain ⟨other, foundOther, picksOther⟩ := pool?_eq_some.mp known
  obtain ⟨_, rfl⟩ := List.getElem?_eq_some_iff.mp foundOther
  have different : view.settings.self ≠ pool.settings.self := fun same =>
    absurd (uniform.distinct earlier node view pool known present same) (Nat.ne_of_lt before)
  simp [picksOther, Peer.Picker.self?, different]

/-- A key belongs to the node whose address a ring names. -/
theorem owner (present : cluster.pool? node = some pool) (key : String) :
    ∃ home view, cluster.pool? home = some view ∧
      pool.ring.owner? key = some view.settings.self ∧ cluster.Owns home key := by
  obtain ⟨reached, places⟩ := uniform.reached node pool present
  have consistent := reached.consistent
  have listed : pool.settings.self ∈ pool.members :=
    (uniform.members node pool present _).mpr ⟨node, pool, present, rfl⟩
  obtain ⟨address, owned⟩ : ∃ address, pool.ring.owner? key = some address := by
    refine Option.ne_none_iff_exists'.mp fun nobody => ?_
    rcases consistent.owner?_eq_none_iff.mp nobody with empty | nowhere
    · rw [empty] at listed
      cases listed
    · exact absurd (places.symm.trans nowhere) (Nat.ne_of_gt uniform.positive)
  obtain ⟨home, view, known, rfl⟩ :=
    (uniform.members node pool present address).mp (consistent.owner_mem owned)
  refine ⟨home, view, known, owned, view, known, fun other another found => ?_⟩
  obtain ⟨reachedOther, placesOther⟩ := uniform.reached other another found
  have members (member : String) : member ∈ another.members ↔ member ∈ pool.members := by
    rw [uniform.members other another found, uniform.members node pool present]
  rw [reachedOther.ring_agrees reached members (placesOther.trans places.symm)]
  exact owned

/-- A node that picks nobody for a key is the one to which the key belongs. -/
theorem owns_of_alone (present : cluster.pool? node = some pool)
    (alone : (pool.pick key).1 = none) : cluster.Owns node key := by
  obtain ⟨home, view, known, owned, owns⟩ := uniform.owner present key
  rcases (uniform.reached node pool present).1.consistent.pick_eq_none_iff.mp alone with
    empty | self
  · cases owned.symm.trans ((Peer.Ring.owner?_eq_none_iff pool.ring key).mpr empty)
  · obtain rfl := uniform.distinct node home pool view present known
      (Option.some.inj (self.symm.trans owned))
    exact owns

/-- A node that is picked for a key is the one to which the key belongs. -/
theorem owns_of_picked {client : Peer.Client} (present : cluster.pool? node = some pool)
    (picked : (pool.pick key).1 = some client) :
    ∃ home, cluster.nodeAt? client.address = some home ∧ cluster.Owns home key := by
  obtain ⟨home, view, known, owned, owns⟩ := uniform.owner present key
  have named := (uniform.reached node pool present).1.consistent.owner_of_pick picked
  rw [Option.some.inj (named.symm.trans owned)]
  exact ⟨home, uniform.nodeAt?_self known, owns⟩

/-- A key belongs to one node only. -/
theorem owns_unique {other : Nat} (owns : cluster.Owns node key)
    (ownsToo : cluster.Owns other key) : node = other := by
  obtain ⟨pool, present, all⟩ := owns
  obtain ⟨view, known, allToo⟩ := ownsToo
  exact uniform.distinct node other pool view present known
    (Option.some.inj ((all node pool present).symm.trans (allToo node pool present)))

end Uniform

/-! ## Nodes that know each other -/

def toldPool (hash : Peer.Hash) (settings : Peer.Settings) (addresses : List String)
    (self : String) : Peer.Pool :=
  (Peer.Pool.empty hash { settings with self }).change (.set addresses)

/-- Nodes that were told the addresses of all of them, each with a group that is attached. -/
def ofAddresses (hash : Peer.Hash) (settings : Peer.Settings) (addresses : List String)
    (name : String) (budget : Nat) : Cluster where
  nodes := addresses.mapIdx fun node self =>
    ⟨.pool (toldPool hash settings addresses self), [(name, node)]⟩
  members := addresses.mapIdx fun node _ => ⟨(Group.empty name budget).setAttached true, node⟩
  calls := []
  transits := []
  issued := 0
  down := []

section

variable {hash : Peer.Hash} {settings : Peer.Settings} {addresses : List String} {name : String}
  {budget : Nat}

theorem settings_toldPool (self : String) :
    (toldPool hash settings addresses self).settings =
      { settings with self := Peer.normalizeAddress self } := by
  rw [toldPool, Peer.Pool.change, Peer.Pool.set, Peer.Pool.settings_apply]
  rfl

theorem mem_members_toldPool {self address : String}
    (normal : ∀ address ∈ addresses, Peer.normalizeAddress address = address) :
    address ∈ (toldPool hash settings addresses self).members ↔ address ∈ addresses := by
  rw [toldPool, Peer.Pool.members_change, Peer.Pool.mem_normalizeMembers]
  constructor
  · rintro ⟨given, among, rfl⟩
    exact (normal given among).symm ▸ among
  · intro among
    exact ⟨address, among, normal address among⟩

theorem pool?_ofAddresses (node : Nat) :
    (ofAddresses hash settings addresses name budget).pool? node =
      addresses[node]?.map (toldPool hash settings addresses) := by
  rw [pool?, ofAddresses]
  cases present : addresses[node]? <;> simp [present]

theorem find?_ofAddresses (node : Nat) (title : String) :
    (ofAddresses hash settings addresses name budget).find? node title =
      if name = title ∧ node < addresses.length then some node else none := by
  rw [find?, ofAddresses]
  by_cases inside : node < addresses.length
  · simp [inside, Ordered.get?_cons, Ordered.get?_nil]
  · simp [inside]

theorem members_ofAddresses {node : Nat} (inside : node < addresses.length) :
    (ofAddresses hash settings addresses name budget).members[node]? =
      some ⟨(Group.empty name budget).setAttached true, node⟩ := by
  simp [ofAddresses, inside]

/-- Such nodes agree if their addresses are different and in their common form. -/
theorem uniform_ofAddresses (distinct : addresses.Nodup)
    (normal : ∀ address ∈ addresses, Peer.normalizeAddress address = address)
    (positive : 0 < settings.replicas) :
    (ofAddresses hash settings addresses name budget).Uniform hash settings.replicas name := by
  -- every pool is that of a listed address, under which its node knows itself
  have listed (node : Nat) (pool : Peer.Pool)
      (present : (ofAddresses hash settings addresses name budget).pool? node = some pool) :
      ∃ self, addresses[node]? = some self ∧ toldPool hash settings addresses self = pool ∧
        pool.settings.self = self := by
    rw [pool?_ofAddresses] at present
    obtain ⟨self, found, rfl⟩ := Option.map_eq_some_iff.mp present
    rw [settings_toldPool]
    exact ⟨self, found, rfl, normal self (List.mem_of_getElem? found)⟩
  refine ⟨positive, ?_, ?_, ?_, ?_, ?_, ?_⟩
  · intro node inside
    have found : node < addresses.length := by simpa [ofAddresses] using inside
    rw [pool?_ofAddresses, List.getElem?_eq_getElem found]
    exact ⟨_, rfl⟩
  · intro node pool present
    obtain ⟨self, -, rfl, -⟩ := listed node pool present
    rw [settings_toldPool]
    exact ⟨⟨_, [.set addresses], rfl⟩, rfl⟩
  · intro node pool present address
    obtain ⟨self, -, rfl, -⟩ := listed node pool present
    rw [mem_members_toldPool normal]
    constructor
    · intro among
      obtain ⟨other, found⟩ := List.getElem?_of_mem among
      have known : (ofAddresses hash settings addresses name budget).pool? other =
          some (toldPool hash settings addresses address) := by
        rw [pool?_ofAddresses, found]
        rfl
      obtain ⟨title, again, -, named⟩ := listed other _ known
      cases found.symm.trans again
      exact ⟨other, _, known, named⟩
    · rintro ⟨other, view, known, rfl⟩
      obtain ⟨title, found, -, rfl⟩ := listed other view known
      exact List.mem_of_getElem? found
  · intro node other pool view present known same
    obtain ⟨self, found, -, rfl⟩ := listed node pool present
    obtain ⟨title, again, -, rfl⟩ := listed other view known
    rw [← same] at again
    exact (List.getElem?_inj (List.getElem?_eq_some_iff.mp found).1 distinct).mp
      (found.trans again.symm)
  · intro node pool _ down
    cases down
  · intro node inside
    have found : node < addresses.length := by simpa [ofAddresses] using inside
    refine ⟨node, _, ?_, members_ofAddresses found, rfl, rfl⟩
    rw [find?_ofAddresses, if_pos ⟨rfl, found⟩]

end

end ReadThrough.Cluster
