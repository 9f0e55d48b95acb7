import ReadThrough.Proofs.Cluster.Owners
import ReadThrough.Proofs.Server.PeerUrl

/-!
# Hops between nodes

The client of a node writes the URL of a key, and the server at its address
reads the path of this URL.  A server with the same base path is asked for the
key exactly if the URL can be read and no character of the base path ends its
path.  Otherwise the fetch fails although the server is there, and the node that
fetched loads the value of a key that belongs to another one.
-/

namespace ReadThrough

namespace Server

open Http (Target Uri)
open Peer (IsBasePath)

section

variable {pool : Option Peer.Pool} {groups : List Group} {client : Peer.Client} {target : Target}

/-- A server is asked for the key that a client fetches from it. -/
def HandsOver (pool : Option Peer.Pool) (groups : List Group) (client : Peer.Client)
    (target : Target) : Prop :=
  ∃ uri, client.uri? target = some uri ∧
    dispatch pool (some groups) servedMethod uri.path = .lookUp true target

/-- A fetch fails although the server is there, which does not look up anything. -/
inductive TurnsAway (pool : Option Peer.Pool) (groups : List Group) (client : Peer.Client)
    (target : Target) : Causes → Prop where
  | malformed (unreadable : client.uri? target = none) :
      TurnsAway pool groups client target ["Invalid peer URL: " ++ client.url target]
  | refused {uri : Uri} {response : Http.Response} {causes : Causes}
      (sent : client.uri? target = some uri)
      (dispatched : dispatch pool (some groups) servedMethod uri.path = .respond response)
      (failed : client.interpret (client.url target) (.response response.status response.body) =
        .error causes) : TurnsAway pool groups client target causes

/-- A server answers as its dispatch says, and a lookup of the key with its outcome. -/
structure Serving (pool : Option Peer.Pool) (groups : List Group) (target : Target)
    (outcome : Outcome) (exchange : Uri → Peer.Reply) : Prop where
  responds : ∀ uri response, dispatch pool (some groups) servedMethod uri.path =
    .respond response → exchange uri = .response response.status response.body
  looksUp : ∀ uri, dispatch pool (some groups) servedMethod uri.path = .lookUp true target →
    exchange uri = .response (outcomeResponse outcome).status (outcomeResponse outcome).body

/-- A client that is turned away has no value, whatever the server would say otherwise. -/
theorem TurnsAway.fetch {causes : Causes} (turned : TurnsAway pool groups client target causes)
    {outcome : Outcome} {exchange : Uri → Peer.Reply}
    (serving : Serving pool groups target outcome exchange) :
    client.fetch exchange target = .error causes := by
  cases turned with
  | malformed unreadable => exact client.fetch_of_unreadable exchange unreadable
  | refused sent dispatched failed =>
      rw [client.fetch_of_uri? exchange sent, serving.responds _ _ dispatched, failed]

theorem HandsOver.fetch (hands : HandsOver pool groups client target) {value : Bytes}
    {exchange : Uri → Peer.Reply} (serving : Serving pool groups target (.ok value) exchange) :
    client.fetch exchange target = .ok value := by
  obtain ⟨uri, sent, looks⟩ := hands
  rw [client.fetch_of_uri? exchange sent, serving.looksUp uri looks]
  exact interpret_value client (client.url target) value

theorem HandsOver.not_turnsAway (hands : HandsOver pool groups client target) (causes : Causes) :
    ¬ TurnsAway pool groups client target causes := by
  obtain ⟨uri, sent, looks⟩ := hands
  intro turned
  cases turned with
  | malformed unreadable => cases sent.symm.trans unreadable
  | refused again dispatched =>
      cases sent.symm.trans again
      cases looks.symm.trans dispatched

variable {settings : Peer.Settings} (accepted : IsBasePath settings.basePath)
  {address scheme authority : String} (origin : Uri.IsOrigin address scheme authority)
  (shared : basePathOf pool = settings.basePath)

include accepted origin

theorem path_of_uri? {uri : Uri}
    (sent : (Peer.Pool.clientOf settings address).uri? target = some uri) :
    uri.path = String.ofList
      ((settings.basePath ++ target.path).toList.takeWhile fun char => !Uri.endsPath char) := by
  have starts : (settings.basePath ++ target.path).toList.head? = some '/' := by
    obtain ⟨rest, written⟩ := accepted.starts
    simp [written]
  have url : (Peer.Pool.clientOf settings address).url target =
      address ++ (settings.basePath ++ target.path) := String.append_assoc
  rw [Peer.Client.uri?, url] at sent
  have found := origin.pathIn?_append starts
  rw [origin.path_of_parse? starts sent, Option.some.injEq] at found
  exact found

include shared

/-- A server is asked for a key exactly if the URL can be read and its path is the whole one. -/
theorem handsOver_iff (named : target.group ≠ "") :
    HandsOver pool groups (Peer.Pool.clientOf settings address) target ↔
      (Peer.Pool.clientOf settings address).uri? target ≠ none ∧ PlainInUrl settings.basePath := by
  constructor
  · rintro ⟨uri, sent, looks⟩
    refine ⟨by simp [sent], ?_⟩
    by_contra marked
    rw [path_of_uri? accepted origin sent, takeWhile_path_of_not_plain marked,
      String.ofList_toList, dispatch_served, shared, ofPath_shortened accepted marked] at looks
    cases looks
  · rintro ⟨readable, plain⟩
    obtain ⟨uri, sent⟩ := Option.ne_none_iff_exists'.mp readable
    refine ⟨uri, sent, ?_⟩
    rw [path_of_uri? accepted origin sent, (takeWhile_path_eq_self_iff target).mpr plain,
      String.ofList_toList, ← shared]
    exact dispatch_peer pool groups named

/-- Whoever is not asked for a key turns the client away. -/
theorem turnsAway_of_not_handsOver (named : target.group ≠ "")
    (unasked : ¬ HandsOver pool groups (Peer.Pool.clientOf settings address) target) :
    ∃ causes, TurnsAway pool groups (Peer.Pool.clientOf settings address) target causes := by
  rw [handsOver_iff accepted origin shared named] at unasked
  cases sent : (Peer.Pool.clientOf settings address).uri? target with
  | none => exact ⟨_, .malformed sent⟩
  | some uri =>
      have marked : ¬ PlainInUrl settings.basePath := fun plain =>
        unasked ⟨by simp [sent], plain⟩
      have dispatched : dispatch pool (some groups) servedMethod uri.path =
          .respond (messageResponse 404 "not found") := by
        rw [path_of_uri? accepted origin sent, takeWhile_path_of_not_plain marked,
          String.ofList_toList, dispatch_served, shared, ofPath_shortened accepted marked,
          Route.action]
      exact ⟨_, .refused sent dispatched rfl⟩

/-- A client gets the value of a key exactly if it can be asked for by the URL. -/
theorem fetch_eq_ok_iff (named : target.group ≠ "") {value : Bytes}
    {exchange : Uri → Peer.Reply} (serving : Serving pool groups target (.ok value) exchange) :
    (Peer.Pool.clientOf settings address).fetch exchange target = .ok value ↔
      (Peer.Pool.clientOf settings address).uri? target ≠ none ∧
        PlainInUrl settings.basePath := by
  rw [← handsOver_iff accepted origin shared named]
  constructor
  · intro fetched
    by_contra unasked
    obtain ⟨causes, turned⟩ := turnsAway_of_not_handsOver accepted origin shared named unasked
    cases (turned.fetch serving).symm.trans fetched
  · intro hands
    exact hands.fetch serving

end

end Server

namespace Cluster

open Http (Target Uri)
open Peer (IsBasePath)
open Server (HandsOver TurnsAway PlainInUrl basePathOf)

/-- The client with which the node of a call fetches from an address. -/
def clientFor? (cluster : Cluster) (call : Nat) (address : String) : Option Peer.Client := do
  let info ← Ordered.get? call cluster.calls
  let home ← cluster.members[info.member]?
  let pool ← cluster.pool? home.node
  return Peer.Pool.clientOf pool.settings address

/-- A fetch arrives where its key is asked for, and breaks off only where it is turned away. -/
def Routed (cluster : Cluster) : Move → Prop
  | .event (.arrive call) => ∀ address group key client node,
      Ordered.get? call cluster.transits = some (.travelling address group key) →
      cluster.clientFor? call address = some client → cluster.nodeAt? address = some node →
        HandsOver (cluster.pool? node) (cluster.groupsOf node) client ⟨group, key⟩
  | .breakOff call causes => ∀ transit, Ordered.get? call cluster.transits = some transit →
      ∃ address group key client node, transit = .travelling address group key ∧
        cluster.clientFor? call address = some client ∧ cluster.nodeAt? address = some node ∧
          TurnsAway (cluster.pool? node) (cluster.groupsOf node) client ⟨group, key⟩ causes
  | _ => True

/-- Whatever happens to a fetch in a sequence of moves comes from the node of its address. -/
def RoutedThroughout (cluster : Cluster) : List Move → Prop
  | [] => True
  | move :: moves => cluster.Routed move ∧ (cluster.make move).1.RoutedThroughout moves

/-- All nodes have the same base path, and a URL can be made of each of their addresses. -/
structure Addressed (basePath : String) (cluster : Cluster) : Prop where
  accepted : IsBasePath basePath
  shared : ∀ node pool, cluster.pool? node = some pool → pool.settings.basePath = basePath
  origin : ∀ node pool, cluster.pool? node = some pool →
    ∃ scheme authority, Uri.IsOrigin pool.settings.self scheme authority

/-- The URLs of a key at the nodes to which it belongs can be read, and lead there. -/
def Reachable (basePath name : String) (cluster : Cluster) (key : String) : Prop :=
  PlainInUrl basePath ∧ ∀ node pool, cluster.pool? node = some pool → cluster.Owns node key →
    (Peer.Pool.clientOf pool.settings pool.settings.self).uri? ⟨name, key⟩ ≠ none

section

variable {hash : Peer.Hash} {replicas : Nat} {name basePath : String} {start cluster : Cluster}
  {may : Nat → String → Prop} {data : String → Except Causes Bytes}
  {asked : Nat → String × String} {node : Nat} {key : String}

theorem clientFor?_eq_some {call : Nat} {address : String} {client : Peer.Client}
    (found : cluster.clientFor? call address = some client) :
    ∃ node pool, cluster.pool? node = some pool ∧
      client = Peer.Pool.clientOf pool.settings address := by
  obtain ⟨info, -, rest⟩ := Option.bind_eq_some_iff.mp found
  obtain ⟨home, -, rest⟩ := Option.bind_eq_some_iff.mp rest
  obtain ⟨pool, present, same⟩ := Option.bind_eq_some_iff.mp rest
  exact ⟨home.node, pool, present, (Option.some.inj same).symm⟩

/-- The owner of a reachable key does not turn a client away. -/
theorem Placed.not_breaks (placed : Placed start may data name asked cluster)
    (addressed : start.Addressed basePath) (named : name ≠ "")
    (reachable : start.Reachable basePath name key) {move : Move} (routed : cluster.Routed move) :
    ¬ cluster.Breaks name move node key := by
  rintro ⟨call, causes, member, caller, rfl, underWay, stands, registered, rfl⟩
  obtain ⟨transit, fetch⟩ := Option.ne_none_iff_exists'.mp underWay
  obtain ⟨address, title, key, client, other, rfl, fetches, reached, turned⟩ := routed transit fetch
  -- The fetch asks for the key of its call in the group of the name.
  obtain ⟨-, home, -, found, waits⟩ := standing?_eq_some.mp stands
  obtain ⟨asks, -⟩ := placed.coherent.held member home call caller found waits
  obtain ⟨_, again, titled⟩ := placed.coherent.registered node name member registered
  cases found.symm.trans again
  obtain ⟨-, -, same⟩ := placed.coherent.fetched call _ fetch
  obtain ⟨rfl, rfl⟩ : title = name ∧ key = caller.key := by
    rw [titled] at asks
    exact ⟨congrArg Prod.fst (same.symm.trans asks), congrArg Prod.snd (same.symm.trans asks)⟩
  -- So it goes to the owner of the key, which has the base path of the client.
  obtain ⟨-, goes⟩ := placed.fetched call _ fetch
  obtain ⟨owner, there, owns⟩ := goes rfl
  obtain ⟨pool, present, rfl⟩ := pool?_of_nodeAt? there
  rw [nodeAt?, placed.nodes] at reached
  obtain rfl : owner = other := Option.some.inj (there.symm.trans reached)
  obtain ⟨asker, askerPool, presentToo, rfl⟩ := clientFor?_eq_some fetches
  rw [pool?, placed.nodes] at presentToo turned
  have shared := addressed.shared owner pool present
  have sharedToo := addressed.shared asker askerPool presentToo
  obtain ⟨scheme, authority, origin⟩ := addressed.origin owner pool present
  have hands : HandsOver (start.pool? owner) (cluster.groupsOf owner)
      (Peer.Pool.clientOf askerPool.settings pool.settings.self) ⟨title, caller.key⟩ := by
    refine (Server.handsOver_iff (sharedToo ▸ addressed.accepted) origin ?_ named).mpr ⟨?_, ?_⟩
    · rw [present, sharedToo, ← shared]
      rfl
    · have readable := reachable.2 owner pool present owns
      simpa only [Peer.Client.uri?, Peer.Client.url, Peer.Pool.clientOf, shared, sharedToo]
        using readable
    · rw [sharedToo]
      exact reachable.1
  exact hands.not_turnsAway causes turned

/-- No fetch of a reachable key breaks off in a run in which nodes do what the protocol says. -/
theorem Placed.not_broke (placed : Placed start may data name asked cluster)
    (uniform : start.Uniform hash replicas name) (attended : cluster.Attended none)
    (addressed : start.Addressed basePath) (named : name ≠ "")
    (reachable : start.Reachable basePath name key) {history : List Move}
    (undisturbed : ∀ move ∈ history, move.Undisturbed)
    (truthful : cluster.TruthfulThroughout data name history)
    (routed : cluster.RoutedThroughout history) : ¬ cluster.Broke name history node key := by
  induction history generalizing cluster asked may with
  | nil => exact id
  | cons move history ih =>
      obtain ⟨first, others⟩ := truthful
      obtain ⟨route, routes⟩ := routed
      obtain ⟨⟨later, next⟩, -⟩ :=
        placed.make uniform attended (undisturbed move List.mem_cons_self) first
      have permissive : Coherent (fun _ _ _ => True) asked cluster :=
        placed.coherent.mono fun _ _ _ _ => True.intro
      rintro (now | afterwards)
      · exact placed.not_breaks addressed named reachable route now
      · exact ih next (attended.make permissive move)
          (fun other present => undisturbed other (List.mem_cons_of_mem _ present)) others routes
          afterwards

end

/--
A run of two nodes in which nothing is down, nobody gives up and a fetch fails
only because no URL can be made of the base path: both nodes take a key for one
that belongs to the first, and both keep its value.
-/
theorem not_only_owners_keep :
    let hash : Peer.Hash := fun bytes => (bytes.getLast?.getD 0).toUInt32
    let document : Yaml.Value := .hash [(.str "peers", .hash [(.str "base_path", .str "/a b/"),
      (.str "replicas", .int 1)])]
    let settings := { Peer.Settings.standard with basePath := "/a b/", replicas := 1 }
    let start := ofAddresses hash settings ["http://a", "http://b"] "g" 0
    let data (_ : String) : Except Causes Bytes := .ok [7]
    let history : List Move := [.event (.get 1 "g" "k"),
      .breakOff 0 ["Invalid peer URL: http://a/a b/g/k"], .event (.receive 0 ⟨5⟩),
      .event (.loaded 0 (.ok [7])), .event (.get 0 "g" "k"), .event (.loaded 1 (.ok [7]))]
    let cluster := (start.play history).1
    Peer.Settings.read document = .ok (settings, []) ∧ start.Uniform hash 1 "g" ∧ start.Fresh ∧
      (∀ move ∈ history, move.Undisturbed) ∧ start.RoutedThroughout history ∧
      start.TruthfulThroughout data "g" history ∧
      (∀ node ∈ [0, 1], ∃ kept, cluster.group? node "g" = some kept ∧
        ⟨"k", 2, [7]⟩ ∈ kept.cache.entries) ∧
      .load 0 1 "k" ∈ (start.play history).2 ∧ ¬ cluster.Owns 1 "k" := by
  intro hash document settings start data history cluster
  have accepted : Peer.Settings.read document = .ok (settings, []) := by decide +kernel
  have distinct : ["http://a", "http://b"].Nodup := by decide
  have normal : ∀ address ∈ ["http://a", "http://b"], Peer.normalizeAddress address = address := by
    decide
  have positive : 0 < settings.replicas := Nat.one_pos
  have uniform : start.Uniform hash 1 "g" := uniform_ofAddresses distinct normal positive
  have fresh : start.Fresh := fresh_ofAddresses _ _ _ _ _
  have undisturbed : ∀ move ∈ history, move.Undisturbed := by
    simp [history, Move.Undisturbed, Event.Undisturbed]
  have truthful : start.TruthfulThroughout data "g" history := by decide
  -- The client with which the second node asks the first one.
  let asking := (start.make (.event (.get 1 "g" "k"))).1
  let client := Peer.Pool.clientOf settings "http://a"
  have unreadable : client.uri? ⟨"g", "k"⟩ = none := by decide +kernel
  have url : client.url ⟨"g", "k"⟩ = "http://a/a b/g/k" := by decide
  have turned : TurnsAway (asking.pool? 0) (asking.groupsOf 0) client ⟨"g", "k"⟩
      ["Invalid peer URL: http://a/a b/g/k"] := by
    have malformed : TurnsAway (asking.pool? 0) (asking.groupsOf 0) client ⟨"g", "k"⟩ _ :=
      .malformed unreadable
    rwa [url] at malformed
  have travels : Ordered.get? 0 asking.transits = some (.travelling "http://a" "g" "k") := by
    decide
  have picked : asking.clientFor? 0 "http://a" = some client := by decide
  have reached : asking.nodeAt? "http://a" = some 0 := by decide
  have routed : start.RoutedThroughout history := by
    refine ⟨True.intro, ?_, True.intro, True.intro, True.intro, True.intro, True.intro⟩
    intro transit fetch
    have same : some transit = some (.travelling "http://a" "g" "k") := fetch.symm.trans travels
    exact ⟨"http://a", "g", "k", client, 0, Option.some.inj same, picked, reached, turned⟩
  have entries : ∀ node ∈ [0, 1],
      (cluster.group? node "g").map (·.cache.entries) = some [⟨"k", 2, [7]⟩] := by decide
  have kept (node : Nat) (listed : node ∈ [0, 1]) : ∃ kept, cluster.group? node "g" = some kept ∧
      ⟨"k", 2, [7]⟩ ∈ kept.cache.entries := by
    obtain ⟨kept, present, same⟩ := Option.map_eq_some_iff.mp (entries node listed)
    exact ⟨kept, present, same ▸ List.mem_singleton.mpr rfl⟩
  have loads : .load 0 1 "k" ∈ (start.play history).2 := by decide
  refine ⟨accepted, uniform, fresh, undisturbed, routed, truthful, kept, loads, ?_⟩
  rintro ⟨pool, present, agree⟩
  have told : (cluster.pool? 1).map (fun pool => pool.settings.self) = some "http://b" := by decide
  have owner : (cluster.pool? 1).bind (fun pool => pool.ring.owner? "k") = some "http://a" := by
    decide
  have own := agree 1 pool present
  rw [present] at told owner
  rw [Option.bind_some, own, Option.some.injEq] at owner
  rw [Option.map_some, Option.some.injEq, owner] at told
  exact absurd told (by decide)

end Cluster

end ReadThrough
