import Mathlib.Logic.ExistsUnique
import ReadThrough.Proofs.Peer.Pool

/-!
# Owners of keys in a cluster

Nodes that see the same members name the same owner of a key, however they came
to see them, and the owner is the one node that picks nobody else.  A change of
the members moves a key only away from members that leave or to members that
join, also where members share positions of the ring.
-/

namespace ReadThrough.Peer.Pool

/-- The pool came about by publications to a new one. -/
def Reached (hash : Hash) (pool : Pool) : Prop :=
  ∃ settings changes, pool = (empty hash settings).follow changes

/-- The pool came about by publications, the last of which gave the members. -/
def Published (hash : Hash) (members : List String) (pool : Pool) : Prop :=
  ∃ earlier last, Reached hash earlier ∧ last.members = members ∧ pool = earlier.change last

namespace Reached

variable {hash : Hash} {pool : Pool}

theorem consistent (reached : Reached hash pool) : pool.Consistent := by
  obtain ⟨settings, changes, rfl⟩ := reached
  exact (consistent_empty hash settings).follow changes

theorem hash_eq (reached : Reached hash pool) : pool.hash = hash := by
  obtain ⟨settings, changes, rfl⟩ := reached
  exact hash_follow (empty hash settings) changes

/-- The ring is told by the members and the number of positions per member. -/
theorem ring_eq (reached : Reached hash pool) :
    pool.ring = .ofMembers hash pool.settings.replicas pool.members := by
  rw [reached.consistent.ring, reached.hash_eq]

theorem change (reached : Reached hash pool) (change : Change) :
    Reached hash (pool.change change) := by
  obtain ⟨settings, changes, rfl⟩ := reached
  exact ⟨settings, changes ++ [change], (follow_concat _ changes change).symm⟩

/-- Pools that see the same members have the same ring. -/
theorem ring_agrees {other : Pool} (reached : Reached hash pool) (reachedOther : Reached hash other)
    (members : ∀ member, member ∈ pool.members ↔ member ∈ other.members)
    (replicas : pool.settings.replicas = other.settings.replicas) : pool.ring = other.ring := by
  have same : pool.members = other.members :=
    Ordered.eq_of_mem_iff reached.consistent.ascending reachedOther.consistent.ascending members
  rw [reached.ring_eq, reachedOther.ring_eq, same, replicas]

end Reached

theorem Published.reached {hash : Hash} {members : List String} {pool : Pool}
    (published : Published hash members pool) : Reached hash pool := by
  obtain ⟨earlier, last, reached, -, rfl⟩ := published
  exact reached.change last

theorem Published.members_eq {hash : Hash} {members : List String} {pool : Pool}
    (published : Published hash members pool) : pool.members = normalizeMembers members := by
  obtain ⟨earlier, last, -, rfl, rfl⟩ := published
  exact members_change earlier last

/-- Nobody is picked if the ring is empty or the node itself is the owner. -/
theorem Consistent.pick_eq_none_iff {pool : Pool} (consistent : pool.Consistent) {key : String} :
    (pool.pick key).1 = none ↔
      pool.ring.nodes = [] ∨ pool.ring.owner? key = some pool.settings.self := by
  rw [consistent.pick_eq, ← Ring.owner?_eq_none_iff pool.ring key]
  cases pool.ring.owner? key with
  | none => simp
  | some owner => simp [Option.filter_eq_none_iff]

/-- Whoever is picked is the owner. -/
theorem Consistent.owner_of_pick {pool : Pool} (consistent : pool.Consistent) {key : String}
    {client : Client} (picked : (pool.pick key).1 = some client) :
    pool.ring.owner? key = some client.address := by
  rw [consistent.pick_eq, Option.map_eq_some_iff] at picked
  obtain ⟨owner, chosen, rfl⟩ := picked
  exact (Option.filter_eq_some_iff.mp chosen).1

/-! ## Agreement -/

/--
However pools came about: if they have the same members and as many positions
per member, they name the same owner of a key, which is one of the members.  A
pool picks nobody if its ring is empty or the owner is the node itself, and
picks the owner otherwise.  If moreover each member is the address of one of the
nodes and no two nodes have the same address, exactly one node owns the key.
-/
theorem owners_agree (hash : Hash) {ι : Type} (pools : ι → Pool)
    (reached : ∀ node, Reached hash (pools node))
    (sameMembers : ∀ first second member,
      member ∈ (pools first).members ↔ member ∈ (pools second).members)
    (sameReplicas : ∀ first second,
      (pools first).settings.replicas = (pools second).settings.replicas) (key : String) :
    (∀ first second, (pools first).ring.owner? key = (pools second).ring.owner? key) ∧
    (∀ node, let pool := pools node
      (∀ change member, member ∈ (pool.change change).members ↔
        ∃ given ∈ change.members, normalizeAddress given = member) ∧
      (pool.ring.nodes = [] ↔ pool.members = [] ∨ pool.settings.replicas = 0) ∧
      (pool.ring.owner? key = none ↔ pool.ring.nodes = []) ∧
      (∀ owner, pool.ring.owner? key = some owner → owner ∈ pool.members) ∧
      ((pool.pick key).1 = none ↔
        pool.ring.nodes = [] ∨ pool.ring.owner? key = some pool.settings.self) ∧
      ∀ client, (pool.pick key).1 = some client →
        pool.ring.owner? key = some client.address) ∧
    (Function.Injective (fun node => (pools node).settings.self) →
      (∀ node, ∀ member ∈ (pools node).members, ∃ home, (pools home).settings.self = member) →
      ∀ node, (pools node).ring.nodes ≠ [] →
        ∃! home, (pools home).ring.owner? key = some (pools home).settings.self) := by
  have agree (first second : ι) :
      (pools first).ring.owner? key = (pools second).ring.owner? key := by
    rw [(reached first).ring_agrees (reached second) (sameMembers first second)
      (sameReplicas first second)]
  refine ⟨agree, ?_, ?_⟩
  · intro node pool
    have consistent : pool.Consistent := (reached node).consistent
    refine ⟨?_, ?_, Ring.owner?_eq_none_iff pool.ring key, fun _ => consistent.owner_mem,
      consistent.pick_eq_none_iff, fun _ => consistent.owner_of_pick⟩
    · intro change member
      rw [members_change]
      exact mem_normalizeMembers
    · rw [← Ring.owner?_eq_none_iff pool.ring key]
      exact consistent.owner?_eq_none_iff
  · intro distinct covering node nonempty
    have consistent : (pools node).Consistent := (reached node).consistent
    obtain ⟨owner, owned⟩ := Option.ne_none_iff_exists'.mp
      (mt (Ring.owner?_eq_none_iff (pools node).ring key).mp nonempty)
    obtain ⟨home, rfl⟩ := covering node owner (consistent.owner_mem owned)
    refine ⟨home, (agree home node).trans owned, ?_⟩
    intro other ownsToo
    exact distinct (Option.some.inj (ownsToo.symm.trans ((agree other node).trans owned)))

/-- Two nodes spell the addresses in different ways and place them at one position. -/
theorem owners_agree_shared_position :
    let hash : Hash := fun _ => 7
    let settings (self : String) : Settings := { Settings.standard with self, replicas := 2 }
    let first := (empty hash (settings "x")).follow
      [.set ["c"], .apply (settings "http://a/") [" http://b/", "http://a"]]
    let second := (empty hash (settings "http://b")).follow
      [.set ["http://a/ ", "http://b", "http://a"]]
    let pools (node : Bool) : Pool := if node then second else first
    (∀ node, Reached hash (pools node)) ∧
      (∀ node, (pools node).members = ["http://a", "http://b"]) ∧
      (∀ node, (pools node).settings.replicas = 2) ∧
      Function.Injective (fun node => (pools node).settings.self) ∧
      (∀ node, ∀ member ∈ (pools node).members, ∃ home, (pools home).settings.self = member) ∧
      ∃! home, (pools home).ring.owner? "k" = some (pools home).settings.self := by
  intro hash settings first second pools
  have reached (node : Bool) : Reached hash (pools node) := by
    cases node with
    | false => exact ⟨settings "x", _, rfl⟩
    | true => exact ⟨settings "http://b", _, rfl⟩
  have members : ∀ node, (pools node).members = ["http://a", "http://b"] := by decide
  have replicas : ∀ node, (pools node).settings.replicas = 2 := by decide
  have distinct : Function.Injective fun node => (pools node).settings.self := by
    unfold Function.Injective
    decide
  have covering : ∀ node, ∀ member ∈ (pools node).members,
      ∃ home, (pools home).settings.self = member := by decide
  obtain ⟨-, -, unique⟩ := owners_agree hash pools reached
    (fun first second member => by rw [members, members])
    (fun first second => by rw [replicas, replicas]) "k"
  exact ⟨reached, members, replicas, distinct, covering,
    unique distinct covering true (by decide)⟩

/-! ## Changes of the members -/

/--
If a key has another owner after a change of the members, then its former owner
has left or its new owner has joined.  A key whose owner stays can only move to
a member that has joined.
-/
theorem owner_moves_to_joined {hash : Hash} {old new : List String} {before after : Pool}
    (published : Published hash old before) (publishedAfter : Published hash new after)
    (sameReplicas : before.settings.replicas = after.settings.replicas)
    {key owner successor : String} (owned : before.ring.owner? key = some owner)
    (ownedAfter : after.ring.owner? key = some successor) (moved : owner ≠ successor) :
    (owner ∉ normalizeMembers new ∨ successor ∉ normalizeMembers old) ∧
      (owner ∈ normalizeMembers new →
        successor ∈ normalizeMembers new ∧ successor ∉ normalizeMembers old) := by
  have stayed (stays : owner ∈ normalizeMembers new) : successor ∉ normalizeMembers old := by
    intro known
    rw [published.reached.ring_eq, published.members_eq] at owned
    rw [publishedAfter.reached.ring_eq, publishedAfter.members_eq, ← sameReplicas] at ownedAfter
    exact moved (Ring.owner_unique (Ordered.pairwise_ofList _) (Ordered.pairwise_ofList _) owned
      ownedAfter stays known)
  have joined : successor ∈ normalizeMembers new := by
    rw [← publishedAfter.members_eq]
    exact publishedAfter.reached.consistent.owner_mem ownedAfter
  refine ⟨?_, fun stays => ⟨joined, stayed stays⟩⟩
  by_cases stays : owner ∈ normalizeMembers new
  · exact Or.inr (stayed stays)
  · exact Or.inl stays

/-- The owner stays, but a member that joins takes over the position that it held. -/
theorem owner_moves_to_joined_collision :
    let hash : Hash := fun _ => 7
    let settings : Settings := { Settings.standard with replicas := 2 }
    let before := (empty hash settings).change (.set ["a/", "b", " a"])
    let after := (before.change (.set [])).change (.set ["c", "b", "a"])
    Published hash ["a/", "b", " a"] before ∧ Published hash ["c", "b", "a"] after ∧
      before.settings.replicas = after.settings.replicas ∧
      before.ring.owner? "k" = some "b" ∧ after.ring.owner? "k" = some "c" ∧
      "b" ∈ normalizeMembers ["c", "b", "a"] ∧ "c" ∉ normalizeMembers ["a/", "b", " a"] := by
  intro hash settings before after
  have published : Published hash ["a/", "b", " a"] before :=
    ⟨empty hash settings, .set ["a/", "b", " a"], ⟨settings, [], rfl⟩, rfl, rfl⟩
  have publishedAfter : Published hash ["c", "b", "a"] after :=
    ⟨before.change (.set []), .set ["c", "b", "a"], published.reached.change (.set []), rfl, rfl⟩
  have replicas : before.settings.replicas = after.settings.replicas := by decide
  have owned : before.ring.owner? "k" = some "b" := by decide
  have ownedAfter : after.ring.owner? "k" = some "c" := by decide
  have stays : "b" ∈ normalizeMembers ["c", "b", "a"] := by decide
  have moved := owner_moves_to_joined published publishedAfter replicas owned ownedAfter (by decide)
  exact ⟨published, publishedAfter, replicas, owned, ownedAfter, stays, (moved.2 stays).2⟩

end ReadThrough.Peer.Pool
