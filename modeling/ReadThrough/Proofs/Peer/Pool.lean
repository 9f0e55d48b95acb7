import ReadThrough.Peer.Pool
import ReadThrough.Proofs.Peer.Ring

/-!
# Histories of pools

Whatever was published to a pool, its members ascend, its ring and its clients
are those of its settings and members, and nothing is left of what was before.
Hence pools with the same members and as many positions per member agree on the
owner of each key, and a key changes its owner only if the owner leaves or the
new one joins.
-/

namespace ReadThrough.Peer

/-- A publication of members, with other settings or with the current ones. -/
inductive Change where
  | set (members : List String)
  | apply (settings : Settings) (members : List String)
  deriving DecidableEq

def Change.members : Change → List String
  | .set members => members
  | .apply _ members => members

namespace Pool

def change (pool : Pool) : Change → Pool
  | .set members => (pool.set members).1
  | .apply settings members => (pool.apply settings members).1

def follow (pool : Pool) (changes : List Change) : Pool :=
  changes.foldl change pool

/-- What holds of a pool at any time. -/
structure Consistent (pool : Pool) : Prop where
  ascending : pool.members.Pairwise (· < ·)
  ring : pool.ring = .ofMembers pool.hash pool.settings.replicas pool.members
  clients : pool.clients = clientsOf pool.settings pool.members

theorem mem_normalizeMembers {members : List String} {member : String} :
    member ∈ normalizeMembers members ↔ ∃ given ∈ members, normalizeAddress given = member := by
  rw [normalizeMembers, Ordered.mem_ofList, List.mem_map]

/-! ## Publications -/

theorem consistent_empty (hash : Hash) (settings : Settings) : (empty hash settings).Consistent :=
  ⟨.nil, rfl, rfl⟩

@[simp]
theorem settings_apply (pool : Pool) (settings : Settings) (members : List String) :
    (pool.apply settings members).1.settings = normalizeSettings settings := by
  rw [apply]
  split
  · rename_i unchanged
    exact unchanged.1
  · rfl

@[simp]
theorem hash_apply (pool : Pool) (settings : Settings) (members : List String) :
    (pool.apply settings members).1.hash = pool.hash := by
  rw [apply]
  split
  · rfl
  · rfl

@[simp]
theorem members_apply (pool : Pool) (settings : Settings) (members : List String) :
    (pool.apply settings members).1.members = normalizeMembers members := by
  rw [apply]
  split
  · rename_i unchanged
    exact unchanged.2
  · rfl

@[simp]
theorem members_change (pool : Pool) (change : Change) :
    (pool.change change).members = normalizeMembers change.members := by
  cases change with
  | set members => rw [Pool.change, set, members_apply, Change.members]
  | apply settings members => rw [Pool.change, members_apply, Change.members]

@[simp]
theorem hash_change (pool : Pool) (change : Change) : (pool.change change).hash = pool.hash := by
  cases change with
  | set members => rw [Pool.change, set, hash_apply]
  | apply settings members => rw [Pool.change, hash_apply]

namespace Consistent

variable {pool : Pool} (consistent : pool.Consistent)

include consistent

theorem apply (settings : Settings) (members : List String) :
    (pool.apply settings members).1.Consistent := by
  rw [Pool.apply]
  split
  · exact consistent
  · exact ⟨Ordered.pairwise_ofList _, rfl, rfl⟩

theorem change (change : Change) : (pool.change change).Consistent := by
  cases change with
  | set members => exact consistent.apply pool.settings members
  | apply settings members => exact consistent.apply settings members

theorem follow (changes : List Change) : (pool.follow changes).Consistent := by
  induction changes generalizing pool with
  | nil => exact consistent
  | cons first changes ih => exact ih (consistent.change first)

end Consistent

@[simp]
theorem hash_follow (pool : Pool) (changes : List Change) :
    (pool.follow changes).hash = pool.hash := by
  induction changes generalizing pool with
  | nil => rfl
  | cons first changes ih => exact (ih (pool.change first)).trans (hash_change pool first)

theorem follow_concat (pool : Pool) (earlier : List Change) (last : Change) :
    pool.follow (earlier ++ [last]) = (pool.follow earlier).change last := by
  rw [follow, follow, List.foldl_append, List.foldl_cons, List.foldl_nil]

/-! ## The client of the owner -/

theorem lookup_clientsOf (settings : Settings) (members : List String) (owner : String) :
    (clientsOf settings members).lookup owner =
      if owner ∈ members ∧ owner ≠ settings.self then some (clientOf settings owner)
      else none := by
  have found (remote : List String) :
      (remote.map fun member => (member, clientOf settings member)).lookup owner =
        if owner ∈ remote then some (clientOf settings owner) else none := by
    induction remote with
    | nil => rfl
    | cons first rest ih =>
        rw [List.map_cons, List.lookup_cons, ih]
        by_cases same : owner = first
        · simp [same]
        · simp [same, beq_eq_false_iff_ne.mpr same]
  rw [clientsOf, found]
  simp

namespace Consistent

variable {pool : Pool} (consistent : pool.Consistent) {key owner : String}

include consistent

theorem owner_mem (owned : pool.ring.owner? key = some owner) : owner ∈ pool.members := by
  rw [consistent.ring] at owned
  exact Ring.owner_mem owned

theorem owner?_eq_none_iff :
    pool.ring.owner? key = none ↔ pool.members = [] ∨ pool.settings.replicas = 0 := by
  rw [consistent.ring]
  exact Ring.owner?_ofMembers_eq_none_iff

/-- A pool picks the client of the owner, unless there is none or it is the node itself. -/
theorem pick_eq (key : String) :
    (pool.pick key).1 = ((pool.ring.owner? key).filter (· ≠ pool.settings.self)).map
      (clientOf pool.settings) := by
  rw [pick]
  cases owned : pool.ring.owner? key with
  | none => rfl
  | some owner =>
      by_cases self : owner = pool.settings.self
      · simp [self, Option.filter]
      · simp [self, Option.filter, consistent.clients, lookup_clientsOf,
          consistent.owner_mem owned]

/-- All keys belong to the only member. -/
theorem pick_of_singleton {member : String} (only : pool.members = [member])
    (placed : pool.settings.replicas ≠ 0) (key : String) :
    (pool.pick key).1 =
      if member = pool.settings.self then none else some (clientOf pool.settings member) := by
  rw [consistent.pick_eq]
  cases owned : pool.ring.owner? key with
  | none =>
      rcases consistent.owner?_eq_none_iff.mp owned with empty | unplaced
      · simp [only] at empty
      · exact absurd unplaced placed
  | some owner =>
      have same : owner = member := by simpa [only] using consistent.owner_mem owned
      by_cases self : member = pool.settings.self
      · simp [same, self, Option.filter]
      · simp [same, self, Option.filter]

end Consistent

end Pool

end ReadThrough.Peer
