import ReadThrough.Proofs.Peer.Ownership

/-!
# What a pool represents

After any publications the ring and the clients of a pool are those of its
members and settings, and nothing else is left of the past: a publication that
changes nothing could as well have replaced everything.  Hence there is a client
for the owner of each key, unless the owner is the node itself.
-/

namespace ReadThrough.Peer.Pool

/-- The pool that a publication makes from the settings and the members alone. -/
def published (hash : Hash) (settings : Settings) (members : List String) : Pool where
  hash
  settings := normalizeSettings settings
  members := normalizeMembers members
  ring := .ofMembers hash settings.replicas (normalizeMembers members)
  clients := clientsOf (normalizeSettings settings) (normalizeMembers members)

theorem keys_clientsOf (settings : Settings) (members : List String) :
    (clientsOf settings members).map Prod.fst =
      members.filter fun member => member ≠ settings.self := by
  rw [clientsOf, List.map_map]
  exact List.map_id _

theorem client_of_mem_clientsOf {settings : Settings} {members : List String} {member : String}
    {client : Client} (present : (member, client) ∈ clientsOf settings members) :
    client = clientOf settings member := by
  obtain ⟨other, -, same⟩ := List.mem_map.mp present
  obtain ⟨rfl, rfl⟩ := Prod.mk.inj same
  rfl

namespace Consistent

variable {pool : Pool} (consistent : pool.Consistent)

include consistent

/-- Nobody can tell whether a publication was skipped. -/
theorem apply_eq (settings : Settings) (members : List String) :
    (pool.apply settings members).1 = published pool.hash settings members := by
  rw [Pool.apply]
  split
  · rename_i unchanged
    obtain ⟨sameSettings, sameMembers⟩ := unchanged
    have ring := consistent.ring
    have clients := consistent.clients
    rw [sameSettings, sameMembers] at ring clients
    cases pool
    simp_all [published, normalizeSettings]
  · rfl

theorem set_eq (members : List String) :
    (pool.set members).1 = published pool.hash pool.settings members :=
  consistent.apply_eq pool.settings members

/-- No two clients are for the same member. -/
theorem clients_distinct : (pool.clients.map Prod.fst).Nodup := by
  rw [consistent.clients, keys_clientsOf]
  exact (consistent.ascending.imp Std.ne_of_lt).filter _

theorem mem_clients_iff {member : String} :
    member ∈ pool.clients.map Prod.fst ↔ member ∈ pool.members ∧ member ≠ pool.settings.self := by
  rw [consistent.clients, keys_clientsOf, List.mem_filter, decide_eq_true_eq]

theorem client_of_mem {member : String} {client : Client}
    (present : (member, client) ∈ pool.clients) : client = clientOf pool.settings member := by
  rw [consistent.clients] at present
  exact client_of_mem_clientsOf present

/-- The client of an owner other than the node itself is found and picked. -/
theorem pick_of_owner {key owner : String} (owned : pool.ring.owner? key = some owner)
    (remote : owner ≠ pool.settings.self) :
    pool.clients.lookup owner = some (clientOf pool.settings owner) ∧
      (pool.pick key).1 = some (clientOf pool.settings owner) := by
  constructor
  · rw [consistent.clients, lookup_clientsOf, if_pos ⟨consistent.owner_mem owned, remote⟩]
  · simp [consistent.pick_eq, owned, remote, Option.filter]

end Consistent

/--
After any publications to a new pool its members ascend, its ring is the one of
its members, and there are clients for exactly the members other than the node
itself, each with the address, the URL and the time limit that follow from the
member and the settings.  What a publication makes depends on the given settings
and members alone, and with the settings kept, on these and the members.  A key
goes to nobody only if the ring is empty or the node owns the key, so the client
of an owner is never missing.
-/
theorem represents_membership (hash : Hash) (settings : Settings) (changes : List Change) :
    let pool := (empty hash settings).follow changes
    pool.members.Pairwise (· < ·) ∧
    pool.ring = .ofMembers hash pool.settings.replicas pool.members ∧
    (pool.clients.map Prod.fst).Nodup ∧
    (∀ member, member ∈ pool.clients.map Prod.fst ↔
      member ∈ pool.members ∧ member ≠ pool.settings.self) ∧
    (∀ member client, (member, client) ∈ pool.clients →
      client.address = member ∧ client.baseUrl = member ++ pool.settings.basePath ∧
        client.timeout = pool.settings.timeout) ∧
    (∀ given members, (pool.apply given members).1 = published hash given members) ∧
    (∀ members, (pool.set members).1 = published hash pool.settings members) ∧
    ∀ key,
      ((pool.pick key).1 = none ↔
        pool.ring.nodes = [] ∨ pool.ring.owner? key = some pool.settings.self) ∧
      ∀ owner, pool.ring.owner? key = some owner → owner ≠ pool.settings.self →
        ∃ client, pool.clients.lookup owner = some client ∧ (pool.pick key).1 = some client ∧
          client.address = owner := by
  intro pool
  have reached : Reached hash pool := ⟨settings, changes, rfl⟩
  have consistent : pool.Consistent := reached.consistent
  refine ⟨consistent.ascending, reached.ring_eq, consistent.clients_distinct,
    fun member => consistent.mem_clients_iff, ?_, ?_, ?_, ?_⟩
  · intro member client present
    rw [consistent.client_of_mem present]
    exact ⟨rfl, rfl, rfl⟩
  · intro given members
    rw [consistent.apply_eq, reached.hash_eq]
  · intro members
    rw [consistent.set_eq, reached.hash_eq]
  · intro key
    refine ⟨consistent.pick_eq_none_iff, fun owner owned remote => ?_⟩
    obtain ⟨found, picked⟩ := consistent.pick_of_owner owned remote
    exact ⟨_, found, picked, rfl⟩

/-- The base path changes while the members stay the same, and the client changes with it. -/
theorem represents_membership_base_path :
    let hash : Hash := fun _ => 7
    let settings (basePath : String) : Settings :=
      { Settings.standard with self := "a", basePath, replicas := 2 }
    let pool := (empty hash (settings "/p/")).follow
      [.set ["b/", " a"], .apply (settings "/q/") ["a", "b", "a"]]
    pool.members = ["a", "b"] ∧ pool.ring.owner? "k" = some "b" ∧
      ∃ client, (pool.pick "k").1 = some client ∧ client.baseUrl = "b/q/" := by
  intro hash settings pool
  have members : pool.members = ["a", "b"] := by decide
  have owned : pool.ring.owner? "k" = some "b" := by decide
  obtain ⟨-, -, -, -, carried, -, -, owners⟩ := represents_membership hash (settings "/p/")
    [.set ["b/", " a"], .apply (settings "/q/") ["a", "b", "a"]]
  obtain ⟨client, found, picked, -⟩ := (owners "k").2 "b" owned (by decide)
  have present : ("b", client) ∈ pool.clients := by
    obtain ⟨before, after, split, -⟩ := List.lookup_eq_some_iff.mp found
    rw [split]
    exact List.mem_append_right _ List.mem_cons_self
  obtain ⟨-, url, -⟩ := carried "b" client present
  refine ⟨members, owned, client, picked, url.trans ?_⟩
  decide

end ReadThrough.Peer.Pool
