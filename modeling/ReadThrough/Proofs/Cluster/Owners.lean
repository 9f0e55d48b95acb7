import ReadThrough.Proofs.Cluster.Placement

/-!
# Only the owner keeps a value

Whatever clients ask and in whatever order the calls go on, in a cluster whose
nodes agree a value is kept at the node to which its key belongs and nowhere
else, and another node asks its data source only for a key that has no value.
The only exceptions are nodes whose own fetch of the key has broken off.
-/

namespace ReadThrough.Cluster

/-- Nothing has happened yet in a cluster whose groups have their names. -/
structure Fresh (cluster : Cluster) : Prop where
  registered : ∀ node name member, cluster.find? node name = some member →
    ∃ home, cluster.members[member]? = some home ∧ home.group.name = name
  groups : ∀ home ∈ cluster.members, ∃ name budget attached,
    home.group = (Group.empty name budget).setAttached attached
  calls : cluster.calls = []
  transits : cluster.transits = []

theorem Fresh.attended {start : Cluster} (fresh : start.Fresh) : start.Attended none where
  groups := by
    intro member home found
    obtain ⟨title, budget, attached, same⟩ := fresh.groups home (List.mem_of_getElem? found)
    obtain ⟨lookups, sourceRuns, joined, waiting⟩ := Group.attended_empty title budget
    rw [same]
    exact ⟨lookups, sourceRuns, joined, waiting⟩
  alive := by simp [fresh.calls]
  answering := by simp [fresh.calls]
  fetching := by
    intro member home call key ticket address _ found waits
    obtain ⟨title, budget, attached, same⟩ := fresh.groups home (List.mem_of_getElem? found)
    rw [same] at waits
    cases waits
  serving := by simp [fresh.transits]

theorem Fresh.placed {hash : Peer.Hash} {replicas : Nat} {name : String} {start : Cluster}
    (fresh : start.Fresh) (uniform : start.Uniform hash replicas name)
    (data : String → Except Causes Bytes) :
    Placed start start.Owns data name (fun _ => ("", "")) start where
  owned := fun _ _ owns => owns
  coherent := {
    registered := fresh.registered
    sound := by
      intro member home found
      obtain ⟨title, budget, attached, same⟩ := fresh.groups home (List.mem_of_getElem? found)
      have sound : (Group.empty title budget).Sound (Given data name False home.group.name)
          (fun _ => "") fun _ => "" := .empty title budget
      refine ⟨fun _ => "", fun _ => "", ?_⟩
      rw [same] at sound ⊢
      exact ⟨sound.cached, sound.lookups, sound.sourceRuns, sound.callers⟩
    held := by
      intro member home call caller found waits
      obtain ⟨title, budget, attached, same⟩ := fresh.groups home (List.mem_of_getElem? found)
      rw [same] at waits
      cases waits
    called := by simp [fresh.calls]
    forwarded := by simp [fresh.calls]
    fetched := by simp [fresh.transits] }
  nodes := rfl
  down := rfl
  called := by simp [fresh.calls]
  hosted := by
    intro node member registered
    obtain ⟨_, home, again, found, here, attached⟩ := uniform.hosted node (lt_of_find? registered)
    cases registered.symm.trans again
    obtain ⟨title, budget, _, same⟩ := fresh.groups home (List.mem_of_getElem? found)
    refine ⟨home, found, here, attached, ?_⟩
    rw [same]
    exact Group.confined_empty _ _ _ _ _
  fetched := by simp [fresh.transits]

theorem fresh_ofAddresses (hash : Peer.Hash) (settings : Peer.Settings) (addresses : List String)
    (name : String) (budget : Nat) :
    (ofAddresses hash settings addresses name budget).Fresh where
  registered := by
    intro node title member registered
    have inside := lt_of_find? registered
    rw [find?_ofAddresses] at registered
    split at registered
    · rename_i here
      cases registered
      exact ⟨_, members_ofAddresses here.2, here.1⟩
    · cases registered
  groups := by
    intro home present
    obtain ⟨node, inside, rfl⟩ := List.mem_mapIdx.mp present
    exact ⟨name, budget, true, rfl⟩
  calls := rfl
  transits := rfl

/--
Take a cluster whose nodes are up, have different addresses and the same number
of positions on the ring each, see exactly these addresses as members, and each
have an empty group of the name that is attached.  If the data sources of these
groups give the same values and errors, then whatever clients ask, in whatever
order the calls and their fetches go on, and whichever fetches break off, as long
as no call is given up: a node keeps only keys that belong to it and keys of which
a fetch of its own broke off, so no key is kept at two nodes without such a fetch,
and the data source of another node is asked for a key only if the key has no
value or a fetch of it by that node broke off.
-/
theorem only_owners_keep (hash : Peer.Hash) (replicas : Nat) (data : String → Except Causes Bytes)
    (name : String) (start : Cluster) (history : List Move)
    (uniform : start.Uniform hash replicas name) (fresh : start.Fresh)
    (undisturbed : ∀ move ∈ history, move.Undisturbed)
    (truthful : start.TruthfulThroughout data name history) :
    let cluster := (start.play history).1
    (∀ node group entry, cluster.group? node name = some group →
      entry ∈ group.cache.entries →
        cluster.Owns node entry.key ∨ start.Broke name history node entry.key) ∧
    (∀ node other group another entry twin, cluster.group? node name = some group →
      cluster.group? other name = some another → entry ∈ group.cache.entries →
        twin ∈ another.cache.entries → entry.key = twin.key →
          node = other ∨ start.Broke name history node entry.key ∨
            start.Broke name history other entry.key) ∧
    ∀ call member key, .load call member key ∈ (start.play history).2 →
      ∀ node, cluster.find? node name = some member →
        cluster.Owns node key ∨ (∃ causes, data key = .error causes) ∨
          start.Broke name history node key := by
  intro cluster
  obtain ⟨⟨asked, placed⟩, loads⟩ :=
    (fresh.placed uniform data).play uniform fresh.attended undisturbed truthful
  have owns (node : Nat) (key : String) : cluster.Owns node key ↔ start.Owns node key :=
    owns_congr placed.nodes
  have kept (node : Nat) (group : Group) (entry : Cache.Entry Bytes)
      (present : cluster.group? node name = some group)
      (cached : entry ∈ group.cache.entries) :
      start.Owns node entry.key ∨ start.Broke name history node entry.key := by
    obtain ⟨member, registered, rest⟩ := Option.bind_eq_some_iff.mp present
    obtain ⟨home, found, ⟨⟩⟩ := Option.bind_eq_some_iff.mp rest
    rw [find?_congr placed.nodes] at registered
    obtain ⟨_, stored, -, -, confined⟩ := placed.hosted node member registered
    cases found.symm.trans stored
    exact confined.cached entry cached
  refine ⟨?_, ?_, ?_⟩
  · intro node group entry present cached
    rw [owns]
    exact kept node group entry present cached
  · intro node other group another entry twin present presentToo cached cachedToo same
    have twice := kept other another twin presentToo cachedToo
    rw [← same] at twice
    rcases kept node group entry present cached with here | broke
    · rcases twice with there | broke
      · exact Or.inl (uniform.owns_unique here there)
      · exact Or.inr (Or.inr broke)
    · exact Or.inr (Or.inl broke)
  · intro call member key asks node registered
    rw [find?_congr placed.nodes] at registered
    rw [owns]
    rcases loads call member key asks node registered with (own | broke) | fails
    · exact Or.inl own
    · exact Or.inr (Or.inr broke)
    · exact Or.inr (Or.inl fails)

/--
A value is kept where it belongs, another node asks its data source in vain, and
a node whose fetch breaks off keeps the value, too.
-/
theorem only_owners_keep_two_nodes :
    let hash : Peer.Hash := fun bytes => (bytes.getLast?.getD 0).toUInt32
    let settings := { Peer.Settings.standard with replicas := 1 }
    let start := ofAddresses hash settings ["http://a", "http://b"] "g" 0
    let data (key : String) : Except Causes Bytes :=
      if key = "k" then .ok [7] else .error ["unknown"]
    let history : List Move := [.event (.get 1 "g" "k"), .event (.arrive 0),
      .event (.loaded 1 (.ok [7])), .event (.receive 0 ⟨5⟩), .event (.get 0 "g" "b"),
      .event (.arrive 2), .event (.loaded 3 (.error ["unknown"])), .event (.receive 2 ⟨5⟩),
      .event (.get 1 "g" "k"), .breakOff 4 ["connection reset"], .event (.receive 4 ⟨5⟩),
      .event (.loaded 4 (.ok [7]))]
    let cluster := (start.play history).1
    start.Uniform hash 1 "g" ∧ start.Fresh ∧ (∀ move ∈ history, move.Undisturbed) ∧
      start.TruthfulThroughout data "g" history ∧
      (∃ kept, cluster.group? 0 "g" = some kept ∧ ⟨"k", 2, [7]⟩ ∈ kept.cache.entries) ∧
      (cluster.Owns 0 "k" ∨ start.Broke "g" history 0 "k") ∧
      (∃ kept, cluster.group? 1 "g" = some kept ∧ ⟨"k", 2, [7]⟩ ∈ kept.cache.entries) ∧
      (cluster.Owns 1 "k" ∨ start.Broke "g" history 1 "k") ∧
      .load 2 0 "b" ∈ (start.play history).2 ∧
      (cluster.Owns 0 "b" ∨ (∃ causes, data "b" = .error causes) ∨
        start.Broke "g" history 0 "b") := by
  intro hash settings start data history cluster
  have distinct : ["http://a", "http://b"].Nodup := by decide
  have normal : ∀ address ∈ ["http://a", "http://b"], Peer.normalizeAddress address = address := by
    decide
  have positive : 0 < settings.replicas := Nat.one_pos
  have uniform : start.Uniform hash 1 "g" := uniform_ofAddresses distinct normal positive
  have fresh : start.Fresh := fresh_ofAddresses _ _ _ _ _
  have undisturbed : ∀ move ∈ history, move.Undisturbed := by
    simp [history, Move.Undisturbed, Event.Undisturbed]
  have truthful : start.TruthfulThroughout data "g" history := by decide
  have asked : .load 2 0 "b" ∈ (start.play history).2 := by decide
  obtain ⟨owned, -, loads⟩ :=
    only_owners_keep hash 1 data "g" start history uniform fresh undisturbed truthful
  have entries (node : Nat) (listed : node ∈ [0, 1]) :
      ∃ kept, cluster.group? node "g" = some kept ∧ ⟨"k", 2, [7]⟩ ∈ kept.cache.entries := by
    have stored : ∀ node ∈ [0, 1],
        (cluster.group? node "g").map (·.cache.entries) = some [⟨"k", 2, [7]⟩] := by decide
    obtain ⟨kept, present, same⟩ := Option.map_eq_some_iff.mp (stored node listed)
    exact ⟨kept, present, same ▸ List.mem_singleton.mpr rfl⟩
  obtain ⟨kept, present, cached⟩ := entries 0 (by simp)
  obtain ⟨keptToo, presentToo, cachedToo⟩ := entries 1 (by simp)
  have registered : cluster.find? 0 "g" = some 0 := by decide
  exact ⟨uniform, fresh, undisturbed, truthful, ⟨kept, present, cached⟩,
    owned 0 kept ⟨"k", 2, [7]⟩ present cached, ⟨keptToo, presentToo, cachedToo⟩,
    owned 1 keptToo ⟨"k", 2, [7]⟩ presentToo cachedToo, asked, loads 2 0 "b" asked 0 registered⟩

end ReadThrough.Cluster
