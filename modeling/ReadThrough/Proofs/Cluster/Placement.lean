import ReadThrough.Proofs.Cluster.Liveness
import ReadThrough.Proofs.Cluster.Transparency
import ReadThrough.Proofs.Cluster.Uniform
import ReadThrough.Proofs.Group.Confined

/-!
# Fetches that go to the owner

In a cluster whose nodes agree, a fetch goes to the node to which its key
belongs.  It reaches this node, which fails only if the data source does, unless
the fetch breaks off.  So each group keeps and loads only what it may: the keys
of its node, and those of which a fetch of this node broke off.
-/

namespace ReadThrough.Cluster

/-- Nobody gives up, and nobody outside of the cluster but its clients takes part. -/
def Event.Undisturbed : Event → Prop
  | .get .. | .arrive _ | .receive .. | .loaded .. | .resume _ => True
  | .getForPeer .. | .respond .. | .drop _ => False

/-- The nodes and their members stay as they are, but a fetch may break off. -/
def Move.Undisturbed : Move → Prop
  | .event happening => happening.Undisturbed
  | .breakOff .. => True
  | .applySettings .. | .setMembers .. | .goDown _ | .goUp _ | .register .. | .attach _ => False

/-- In a move, a fetch breaks off by which a node asks for a key of a group. -/
def Breaks (cluster : Cluster) (name : String) (move : Move) (node : Nat) (key : String) : Prop :=
  ∃ call causes member caller, move = .breakOff call causes ∧
    Ordered.get? call cluster.transits ≠ none ∧
    cluster.standing? call = some (member, caller) ∧ cluster.find? node name = some member ∧
    caller.key = key

def Broke (cluster : Cluster) (name : String) (moves : List Move) (node : Nat) (key : String) :
    Prop :=
  match moves with
  | [] => False
  | move :: moves =>
    cluster.Breaks name move node key ∨ (cluster.make move).1.Broke name moves node key

/-- A call that asks for what it was asked for asks for a key that its node may keep. -/
def Excused (start : Cluster) (may : Nat → String → Prop) (asked : Nat → String × String)
    (cluster : Cluster) (call : Nat) : Prop :=
  ∀ info node, Ordered.get? call cluster.calls = some info →
    start.find? node (asked call).1 = some info.member → may node (asked call).2

/--
A fetch is on its way to the node of its key, or has failed because there is no
value or for a reason for which it is excused.
-/
def Transit.Placed (start : Cluster) (data : String → Except Causes Bytes) (name : String)
    (asked : String × String) (excused : Prop) : Transit → Prop
  | .travelling address title key => key ≠ "" ∧
      (title = name → ∃ node, start.nodeAt? address = some node ∧ start.Owns node key)
  | .answered (.error _) => asked.1 = name → excused ∨ Group.Fails data asked.2
  | .answered (.ok _) | .serving _ => True

/-- The fewer calls there are, the more of them are excused. -/
theorem Excused.of_calls {start cluster next : Cluster} {may : Nat → String → Prop}
    {asked : Nat → String × String} {call : Nat} (excused : Excused start may asked cluster call)
    (fewer : ∀ info, Ordered.get? call next.calls = some info →
      Ordered.get? call cluster.calls = some info) : Excused start may asked next call :=
  fun info node own => excused info node (fewer info own)

theorem Transit.Placed.mono {start : Cluster} {data : String → Except Causes Bytes}
    {name : String} {asked : String × String} {excused other : Prop} {transit : Transit}
    (placed : transit.Placed start data name asked excused) (weaker : excused → other) :
    transit.Placed start data name asked other := by
  cases transit with
  | travelling | serving => exact placed
  | answered result =>
      cases result with
      | ok value => exact placed
      | error causes => exact fun same => (placed same).imp_left weaker

/--
The invariant of a cluster that started in the given state, for the groups of a
name, where each node may keep some keys besides its own.
-/
structure Placed (start : Cluster) (may : Nat → String → Prop)
    (data : String → Except Causes Bytes) (name : String)
    (asked : Nat → String × String) (cluster : Cluster) : Prop where
  owned : ∀ node key, start.Owns node key → may node key
  coherent : Coherent (Given data name False) asked cluster
  nodes : cluster.nodes = start.nodes
  down : cluster.down = start.down
  called : ∀ call info, Ordered.get? call cluster.calls = some info →
    (∃ node, start.find? node (asked call).1 = some info.member) ∧
      (info.fetcher ≠ none → (asked call).2 ≠ "")
  hosted : ∀ node member, start.find? node name = some member →
    ∃ home, cluster.members[member]? = some home ∧ home.node = node ∧
      home.group.attached = true ∧ home.group.Confined (may node) data
  fetched : ∀ call transit, Ordered.get? call cluster.transits = some transit →
    transit.Placed start data name (asked call) (Excused start may asked cluster call)

/-- A data source is asked for a key that its node may keep, or for one without a value. -/
def LoadsPlaced (start : Cluster) (may : Nat → String → Prop)
    (data : String → Except Causes Bytes) (name : String) (effects : List Effect) : Prop :=
  ∀ call member key, .load call member key ∈ effects →
    ∀ node, start.find? node name = some member → may node key ∨ Group.Fails data key

/-- The invariant holds again, and the data sources were asked as they may be. -/
def Kept (start : Cluster) (may : Nat → String → Prop) (data : String → Except Causes Bytes)
    (name : String) (result : Cluster × List Effect) : Prop :=
  (∃ asked, Placed start may data name asked result.1) ∧
    LoadsPlaced start may data name result.2

theorem loadsPlaced_of_none {start : Cluster} {may : Nat → String → Prop}
    {data : String → Except Causes Bytes} {name : String} {effects : List Effect}
    (none : ∀ call member key, .load call member key ∉ effects) :
    LoadsPlaced start may data name effects :=
  fun call member key asked => absurd asked (none call member key)

theorem find?_congr {cluster other : Cluster} (nodes : other.nodes = cluster.nodes) (node : Nat)
    (name : String) : other.find? node name = cluster.find? node name := by
  rw [find?, find?, nodes]

/-- A group alone asks its data source. -/
theorem load_of_mem_absorbAll {member : Nat} {cluster : Cluster} {effects : List Group.Effect}
    {call number : Nat} {key : String}
    (asked : .load call number key ∈ (absorbAll member cluster effects).2) :
    number = member ∧ .load call key ∈ effects := by
  induction effects generalizing cluster with
  | nil => cases asked
  | cons effect effects ih =>
      rw [absorbAll_cons] at asked
      rcases List.mem_append.mp asked with now | later
      · cases effect with
        | fetch other address wanted =>
            rw [absorb] at now
            split at now <;> simp at now
        | finish other outcome =>
            rw [absorb, conclude] at now
            split at now <;> simp [answer] at now
        | load other wanted =>
            obtain ⟨rfl, rfl, rfl⟩ : call = other ∧ number = member ∧ key = wanted := by
              simpa [absorb] using now
            exact ⟨rfl, List.mem_cons_self⟩
        | wake | log => simp [absorb] at now
      · obtain ⟨same, present⟩ := ih later
        exact ⟨same, List.mem_cons_of_mem _ present⟩

/-! ## What may be given if no call is dropped -/

section

variable {data : String → Except Causes Bytes} {name key : String}

theorem Given.eq_ok {value : Bytes} (given : Given data name False name key (.ok value))
    (named : key ≠ "") : data key = .ok value := by
  rcases given rfl named with same | ⟨⟨⟩, -⟩
  cases told : data key with
  | ok other =>
      rw [told] at same
      cases same
      rfl
  | error causes =>
      rw [told] at same
      cases same

theorem Given.fails {error : LoadError} (given : Given data name False name key (.error error))
    (named : key ≠ "") : Group.Fails data key := by
  rcases given rfl named with same | ⟨⟨⟩, -⟩
  cases told : data key with
  | ok value =>
      rw [told] at same
      cases same
  | error causes => exact ⟨causes, told⟩

end

namespace Placed

variable {hash : Peer.Hash} {replicas : Nat} {name : String} {start cluster : Cluster}
  {may : Nat → String → Prop} {data : String → Except Causes Bytes}
  {asked : Nat → String × String}
  (placed : Placed start may data name asked cluster)

include placed

/-! ## Events in a group -/

section Group

variable {member : Nat} {home : Member} {event : Group.Event} {fetcher : Option Nat}

/-- What is known of a group under the name. -/
theorem site {node : Nat} (found : cluster.members[member]? = some home)
    (registered : start.find? node name = some member) :
    home.node = node ∧ home.group.name = name ∧ home.group.attached = true ∧
      home.group.Confined (may home.node) data := by
  obtain ⟨_, stored, rfl, attached, confined⟩ := placed.hosted node member registered
  cases found.symm.trans stored
  obtain ⟨_, again, named⟩ := placed.coherent.registered home.node name member
    ((find?_congr placed.nodes home.node name).trans registered)
  cases found.symm.trans again
  exact ⟨rfl, named, attached, confined⟩

/-- A call for the name runs at a group that the cluster has under it. -/
theorem registered_of_call (found : cluster.members[member]? = some home) {call : Nat}
    (own : Ordered.get? call cluster.calls = some ⟨member, fetcher⟩)
    (named : home.group.name = name) : start.find? home.node name = some member := by
  obtain ⟨-, other, again, same⟩ := placed.coherent.called call _ own
  cases found.symm.trans again
  obtain ⟨⟨node, registered⟩, -⟩ := placed.called call _ own
  rw [← same, named] at registered
  obtain ⟨rfl, -⟩ := placed.site found registered
  exact registered

/-- A node picks the owner of each key but its own. -/
theorem picks (uniform : start.Uniform hash replicas name)
    (found : cluster.members[member]? = some home)
    (registered : start.find? home.node name = some member) (key : String) :
    ((home.group.pick (cluster.choiceOf home) key).1 = none → start.Owns home.node key) ∧
      ∀ address, (home.group.pick (cluster.choiceOf home) key).1 = some address →
        ∃ node, start.nodeAt? address = some node ∧ start.Owns node key := by
  obtain ⟨-, -, attached, -⟩ := placed.site found registered
  obtain ⟨pool, present⟩ := uniform.pooled home.node (lt_of_find? registered)
  have here : cluster.pool? home.node = some pool := by
    rw [pool?, placed.nodes]
    exact present
  rw [Group.pick, if_pos attached, choiceOf_eq here]
  refine ⟨fun alone => uniform.owns_of_alone present (Option.map_eq_none_iff.mp alone), ?_⟩
  intro address picked
  obtain ⟨client, chosen, rfl⟩ := Option.map_eq_some_iff.mp picked
  exact uniform.owns_of_picked present chosen

/-- What the rest of the cluster must see to before an event in a group. -/
structure Prepared (may : Nat → String → Prop) (data : String → Except Causes Bytes)
    (name : String) (asked : Nat → String × String) (home : Member) (event : Group.Event) :
    Prop where
  admissible : event.Admissible (Given data name False home.group.name) home.group
    (asked event.call).2
  forPeer : home.group.name = name → ∀ key, event.request? = some ⟨key, true⟩ →
    may home.node key
  failed : home.group.name = name → ∀ call elapsed causes,
    event = .fetched call elapsed (.error causes) →
      may home.node (asked call).2 ∨ Group.Fails data (asked call).2

theorem event_placed (uniform : start.Uniform hash replicas name)
    (found : cluster.members[member]? = some home)
    (prepared : Prepared may data name asked home event)
    (registered : start.find? home.node name = some member) :
    event.Placed (may home.node) data (cluster.choiceOf home) home.group := by
  obtain ⟨-, named, -⟩ := placed.site found registered
  refine ⟨?_, prepared.forPeer named, ?_, ?_⟩
  · intro key alone
    exact placed.owned home.node key ((placed.picks uniform found registered key).1 alone)
  · intro call key ticket address elapsed causes same waits
    obtain ⟨own, -⟩ := placed.coherent.held member home call _ found waits
    have counts := prepared.failed named call elapsed causes same
    rw [own] at counts
    exact counts
  · rintro key value nonempty ⟨same, outstanding⟩
    obtain ⟨lookup, ticket, waits⟩ := Group.loading_of_asked outstanding
    obtain ⟨own, -⟩ := placed.coherent.held member home event.call _ found waits
    have admissible := prepared.admissible
    rw [own, named, same] at admissible
    exact (admissible lookup ticket waits).eq_ok nonempty

/-- The data source of a group is asked as it may be. -/
theorem loads (uniform : start.Uniform hash replicas name)
    (found : cluster.members[member]? = some home)
    (prepared : Prepared may data name asked home event) :
    LoadsPlaced start may data name (cluster.stepMember member event).2 := by
  intro call number key present node registered
  rw [stepMember_eq found] at present
  obtain ⟨rfl, asks⟩ := load_of_mem_absorbAll present
  obtain ⟨rfl, -⟩ := placed.site found registered
  exact (Group.transition (cluster.choiceOf home) home.group event).load_placed
    (placed.event_placed uniform found prepared registered) asks

theorem hosted_stepMember (uniform : start.Uniform hash replicas name)
    (found : cluster.members[member]? = some home)
    (prepared : Prepared may data name asked home event) {node number : Nat}
    (registered : start.find? node name = some number) :
    ∃ home, (cluster.stepMember member event).1.members[number]? = some home ∧
      home.node = node ∧ home.group.attached = true ∧
        home.group.Confined (may node) data := by
  obtain ⟨-, -, -, members⟩ := (reaction found event).kept
  rw [members, members_withGroup found]
  split
  · subst number
    obtain ⟨rfl, -, attached, confined⟩ := placed.site found registered
    have transition := Group.transition (cluster.choiceOf home) home.group event
    exact ⟨_, rfl, rfl, transition.attached.trans attached, confined.step transition
      (placed.event_placed uniform found prepared registered)⟩
  · exact placed.hosted node number registered

/-- A fetch that sets out goes to the node of its key. -/
theorem fetch_placed (uniform : start.Uniform hash replicas name)
    (found : cluster.members[member]? = some home)
    (own : Ordered.get? event.call cluster.calls = some ⟨member, fetcher⟩) {call : Nat}
    {address key : String}
    (fetch : .fetch call address key ∈ (home.group.step (cluster.choiceOf home) event).2)
    (excused : Prop) :
    (Transit.travelling address home.group.name key).Placed start data name (asked call)
      excused := by
  obtain ⟨-, misses, picked, -⟩ :=
    (Group.transition (cluster.choiceOf home) home.group event).fetch_asked fetch
  refine ⟨misses.named, fun named => ?_⟩
  have registered := placed.registered_of_call found own named
  exact (placed.picks uniform found registered key).2 address picked

/-- A call that answers a fetch ends with an error only if there is no value. -/
theorem answer_placed (found : cluster.members[member]? = some home)
    (prepared : Prepared may data name asked home event) {source : Nat}
    (own : Ordered.get? event.call cluster.calls = some ⟨member, some source⟩)
    {outcome : Outcome}
    (finish : .finish event.call outcome ∈ (home.group.step (cluster.choiceOf home) event).2)
    (excused : Prop) :
    (Transit.answered (present outcome)).Placed start data name (asked source) excused := by
  obtain ⟨title, progress⟩ := placed.coherent.progress found event own prepared.admissible
  obtain ⟨-, -, given⟩ := progress.effects _ finish
  cases outcome with
  | ok value => exact True.intro
  | error error =>
      obtain ⟨-, same⟩ := placed.coherent.forwarded event.call member source own
      have nonempty := (placed.called event.call _ own).2 (by simp)
      intro named
      rw [same] at named ⊢
      rw [title.trans named] at given
      exact Or.inr (given.fails nonempty)

theorem fetched_stepMember (uniform : start.Uniform hash replicas name)
    (found : cluster.members[member]? = some home)
    (own : Ordered.get? event.call cluster.calls = some ⟨member, fetcher⟩)
    (prepared : Prepared may data name asked home event) (call : Nat) (transit : Transit)
    (present : Ordered.get? call (cluster.stepMember member event).1.transits = some transit) :
    transit.Placed start data name (asked call)
      (Excused start may asked (cluster.stepMember member event).1 call) := by
  have title := (placed.coherent.progress found event own prepared.admissible).2.name
  have among {effect : Group.Effect} (outward : effect ∈ Group.outwardOf
      (home.group.step (cluster.choiceOf home) event).2) :
      effect ∈ (home.group.step (cluster.choiceOf home) event).2 :=
    (List.mem_filter.mp outward).1
  have reaction := reaction found event
  have before (stored : Ordered.get? call cluster.transits = some transit) :
      transit.Placed start data name (asked call)
        (Excused start may asked (cluster.stepMember member event).1 call) :=
    (placed.fetched call transit stored).mono fun excused => excused.of_calls fun _ =>
      reaction.calls
  generalize (home.group.step (cluster.choiceOf home) event).1 = next at reaction title
  generalize Group.outwardOf (home.group.step (cluster.choiceOf home) event).2 = outward
    at reaction among
  generalize (cluster.stepMember member event).1 = result at reaction present before ⊢
  cases reaction with
  | quiet => exact before present
  | fetches =>
      rw [get?_setTransit] at present
      split at present
      · rename_i same
        cases present
        rw [same, title]
        exact placed.fetch_placed uniform found own (among List.mem_cons_self) _
      · exact before present
  | ends =>
      have still : Ordered.get? event.call (cluster.withGroup member home next).calls =
          some ⟨member, fetcher⟩ := own
      rw [get?_transits_conclude still] at present
      split at present
      · rename_i answers
        subst answers
        cases present
        exact placed.answer_placed found prepared own (among List.mem_cons_self) _
      · split at present
        · cases present
        · exact before present

/-- An event in a group keeps all in its place. -/
theorem stepMember (uniform : start.Uniform hash replicas name)
    (found : cluster.members[member]? = some home)
    (own : Ordered.get? event.call cluster.calls = some ⟨member, fetcher⟩)
    (prepared : Prepared may data name asked home event) :
    Kept start may data name (cluster.stepMember member event) := by
  obtain ⟨nodes, down, -⟩ := (reaction found event).kept
  refine ⟨⟨asked, placed.owned, ?_, nodes.trans placed.nodes, down.trans placed.down, ?_, ?_,
    ?_⟩, placed.loads uniform found prepared⟩
  · exact (handled_stepMember placed.coherent found event own prepared.admissible).coherent
  · intro call info present
    exact placed.called call info ((reaction found event).calls present)
  · intro node number registered
    exact placed.hosted_stepMember uniform found prepared registered
  · exact placed.fetched_stepMember uniform found own prepared

end Group

/-! ## Events -/

section Calls

variable {node member : Nat} {title key : String} {fetcher : Option Nat} {home : Member}

/-- A new call is made at a group of the cluster. -/
theorem opened (registered : start.find? node title = some member)
    (found : cluster.members[member]? = some home) (named : home.group.name = title)
    (forwards : ∀ other, fetcher = some other →
      key ≠ "" ∧ other < cluster.issued ∧ asked other = (title, key)) :
    Placed start may data name (assign asked cluster title key)
      (cluster.opened member fetcher) where
  owned := placed.owned
  coherent := by
    subst named
    exact placed.coherent.opened found key fun other same => (forwards other same).2
  nodes := placed.nodes
  down := placed.down
  called := by
    intro call info present
    rw [get?_calls_opened] at present
    split at present
    · subst call
      cases present
      rw [assign_self]
      refine ⟨⟨node, registered⟩, fun forwarded => ?_⟩
      obtain ⟨other, same⟩ := Option.ne_none_iff_exists'.mp forwarded
      exact (forwards other same).1
    · rw [assign_of_lt asked (placed.coherent.called call info present).1]
      exact placed.called call info present
  hosted := placed.hosted
  fetched := by
    intro call transit present
    have known := (placed.coherent.fetched call transit present).1
    rw [assign_of_lt asked known]
    refine (placed.fetched call transit present).mono fun excused info other again => ?_
    rw [get?_calls_opened, if_neg (Nat.ne_of_lt known)] at again
    rw [assign_of_lt asked known]
    exact excused info other again

theorem begin (uniform : start.Uniform hash replicas name)
    (registered : start.find? node title = some member)
    (forwards : ∀ other, fetcher = some other →
      key ≠ "" ∧ other < cluster.issued ∧ asked other = (title, key))
    {event : Nat → Group.Event}
    (asks : event cluster.issued = .get cluster.issued key ∨
      event cluster.issued = .getForPeer cluster.issued key ∧
        (title = name → may node key)) :
    Kept start may data name (cluster.begin member fetcher event) := by
  obtain ⟨home, found, named⟩ := placed.coherent.registered node title member
    ((find?_congr placed.nodes node title).trans registered)
  have opened := placed.opened registered found named forwards
  have own : Ordered.get? cluster.issued (cluster.opened member fetcher).calls =
      some ⟨member, fetcher⟩ := by
    rw [get?_calls_opened, if_pos rfl]
  have admissible : key = (assign asked cluster title key cluster.issued).2 ∧
      ((assign asked cluster title key cluster.issued).2 = "" →
        Given data name False home.group.name (assign asked cluster title key cluster.issued).2
          (.error .invalidKey)) := by
    rw [assign_self]
    refine ⟨rfl, ?_⟩
    rintro rfl
    exact given_refused False home.group.name
  rcases asks with asks | ⟨asks, kept⟩
  · rw [Cluster.begin, asks]
    exact opened.stepMember uniform found own
      ⟨admissible, by simp [Group.Event.request?], by simp⟩
  · rw [Cluster.begin, asks]
    refine opened.stepMember uniform found own ⟨admissible, ?_, by simp⟩
    rintro same _ ⟨⟩
    rw [named] at same
    rw [same] at registered
    obtain ⟨rfl, -⟩ := placed.site found registered
    exact kept same

/-- An event of a call that is not under way does nothing. -/
theorem stepCall (uniform : start.Uniform hash replicas name) (event : Group.Event)
    (prepared : ∀ info home, Ordered.get? event.call cluster.calls = some info →
      cluster.members[info.member]? = some home → Prepared may data name asked home event) :
    Kept start may data name (cluster.stepCall event.call event) := by
  rw [Cluster.stepCall]
  split
  · rename_i info own
    obtain ⟨-, home, found, -⟩ := placed.coherent.called event.call info own
    exact placed.stepMember uniform found own (prepared info home own found)
  · exact ⟨⟨asked, placed⟩, loadsPlaced_of_none (by simp)⟩

theorem get (uniform : start.Uniform hash replicas name) (node : Nat) (title key : String) :
    Kept start may data name (cluster.request node title fun call => .get call key) := by
  rw [request]
  split
  · rename_i member present
    rw [find?_congr placed.nodes] at present
    exact placed.begin uniform present (by simp) (Or.inl rfl)
  · exact ⟨⟨asked, placed.owned, placed.coherent.unknown, placed.nodes, placed.down,
      placed.called, placed.hosted, placed.fetched⟩, loadsPlaced_of_none (by simp)⟩

end Calls

section Fetches

variable {call : Nat}

theorem setTransit {transit : Transit} (known : call < cluster.issued)
    (fits : transit.Fits (Given data name False) (asked call)
      (Ordered.get? call cluster.calls ≠ none))
    (there : transit.Placed start data name (asked call) (Excused start may asked cluster call)) :
    Placed start may data name asked (cluster.setTransit call transit) where
  owned := placed.owned
  coherent := placed.coherent.setTransit known fits
  nodes := placed.nodes
  down := placed.down
  called := placed.called
  hosted := placed.hosted
  fetched := by
    intro other found present
    rw [get?_setTransit] at present
    split at present
    · subst other
      cases present
      exact there
    · exact placed.fetched other found present

theorem removeTransit (call : Nat) :
    Placed start may data name asked
      { cluster with transits := cluster.transits.filter fun entry => entry.1 ≠ call } where
  owned := placed.owned
  coherent := placed.coherent.removeTransit call
  nodes := placed.nodes
  down := placed.down
  called := placed.called
  hosted := placed.hosted
  fetched := by
    intro other transit present
    rw [Ordered.get?_filter_ne] at present
    split at present
    · cases present
    · exact placed.fetched other transit present

/-- Fetches for the groups of other names may fail. -/
theorem answer (known : call < cluster.issued) (foreign : (asked call).1 ≠ name)
    (causes : Causes) :
    Kept start may data name (cluster.answer call (.error causes)) :=
  ⟨⟨asked, placed.setTransit known True.intro fun same => absurd same foreign⟩,
    loadsPlaced_of_none (by simp [Cluster.answer])⟩

/-- The answer to a fetch is an error only if there is no value or its call is excused. -/
theorem receive (uniform : start.Uniform hash replicas name) {result : Except Causes Bytes}
    (fetch : Ordered.get? call cluster.transits = some (.answered result)) (elapsed : Span) :
    Kept start may data name
      ({ cluster with transits := cluster.transits.filter fun entry => entry.1 ≠ call }.stepCall
        call (.fetched call elapsed result)) := by
  refine (placed.removeTransit call).stepCall uniform (.fetched call elapsed result) ?_
  intro info home own found
  obtain ⟨-, fits⟩ := placed.coherent.fetched call _ fetch
  have there := placed.fetched call _ fetch
  obtain ⟨-, _, again, title⟩ := placed.coherent.called call info own
  cases found.symm.trans again
  refine ⟨?_, by simp [Group.Event.request?], ?_⟩
  · cases result with
    | ok value =>
        rw [title]
        exact fits
    | error causes => exact True.intro
  · rintro named _ _ causes ⟨⟩
    refine (there (title.symm.trans named)).imp_left fun excused => ?_
    refine excused info home.node own ?_
    rw [← title, named]
    exact placed.registered_of_call found own named

theorem loaded (uniform : start.Uniform hash replicas name) {result : Except Causes Bytes}
    (admissible : Event.Admissible (Given data name False) cluster (.loaded call result)) :
    Kept start may data name (cluster.stepCall call (.loaded call result)) := by
  have prepared (info : Call) (home : Member)
      (own : Ordered.get? call cluster.calls = some info)
      (found : cluster.members[info.member]? = some home) :
      Prepared may data name asked home (.loaded call result) := by
    refine ⟨fun lookup ticket waits => ?_, by simp [Group.Event.request?], by simp⟩
    refine admissible home.group.name (asked call).2 ?_
    simp only [Group.Event.call] at waits
    simp [loading?, own, found, waits]
  exact placed.stepCall uniform (.loaded call result) prepared

variable {address title key : String}

theorem deliver (uniform : start.Uniform hash replicas name)
    (fetch : Ordered.get? call cluster.transits = some (.travelling address title key))
    {node : Nat} (owns : title = name → start.Owns node key) :
    Kept start may data name (cluster.deliver call node title key) := by
  obtain ⟨known, underWay, asks⟩ := placed.coherent.fetched call _ fetch
  obtain ⟨nonempty, -⟩ := placed.fetched call _ fetch
  rw [Cluster.deliver]
  split
  · rename_i absent
    refine placed.answer known (fun same => ?_) _
    rw [asks] at same
    obtain ⟨pool, present, -⟩ := owns same
    obtain ⟨host, inside, -⟩ := pool?_eq_some.mp present
    obtain ⟨member, -, registered, -⟩ :=
      uniform.hosted node (List.getElem?_eq_some_iff.mp inside).1
    rw [find?_congr placed.nodes, show title = name from same, registered] at absent
    cases absent
  · rename_i member present
    rw [find?_congr placed.nodes] at present
    have waiting : Placed start may data name asked
        (cluster.setTransit call (.serving cluster.issued)) :=
      placed.setTransit known underWay True.intro
    refine waiting.begin uniform present ?_ (Or.inr ⟨rfl, fun same => ?_⟩)
    · rintro other ⟨⟩
      exact ⟨nonempty, known, asks⟩
    · exact placed.owned node key (owns same)

/-- A fetch reaches the node to which its key belongs. -/
theorem serve (uniform : start.Uniform hash replicas name)
    (fetch : Ordered.get? call cluster.transits = some (.travelling address title key)) :
    Kept start may data name (cluster.serve call address title key) := by
  obtain ⟨known, -, asks⟩ := placed.coherent.fetched call _ fetch
  by_cases same : title = name
  · obtain ⟨node, reached, owns⟩ := (placed.fetched call _ fetch).2 same
    obtain ⟨pool, present, rfl⟩ := pool?_of_nodeAt? reached
    have up : ¬ cluster.down.contains pool.settings.self = true := by
      rw [placed.down, List.contains_iff_mem]
      exact uniform.up node pool present
    have there : cluster.nodeAt? pool.settings.self = some node := by
      rw [nodeAt?, placed.nodes]
      exact reached
    rw [Cluster.serve, if_neg up, there]
    exact placed.deliver uniform fetch fun _ => owns
  · rcases serve_cases cluster call address title key with ⟨causes, ended⟩ | ⟨node, -, ended⟩
    · rw [ended]
      refine placed.answer known ?_ causes
      rw [asks]
      exact same
    · rw [ended]
      exact placed.deliver uniform fetch fun named => absurd named same

end Fetches

/-- Whatever happens, all stays in its place. -/
theorem step (uniform : start.Uniform hash replicas name) {event : Event}
    (undisturbed : event.Undisturbed) (truthful : cluster.Truthful data name (.event event)) :
    Kept start may data name (cluster.step event) := by
  have stays : Kept start may data name (cluster, []) :=
    ⟨⟨asked, placed⟩, loadsPlaced_of_none (by simp)⟩
  cases event with
  | get node title key => exact placed.get uniform node title key
  | arrive call =>
      rw [Cluster.step]
      split
      · rename_i address title key fetch
        exact placed.serve uniform fetch
      · exact stays
  | receive call elapsed =>
      rw [Cluster.step]
      split
      · rename_i result fetch
        exact placed.receive uniform fetch elapsed
      · exact stays
  | loaded call result =>
      exact placed.loaded uniform (truthful.admissible (by rintro _ ⟨⟨⟩, -⟩))
  | resume call =>
      exact placed.stepCall uniform (.resume call) fun info home own found =>
        ⟨True.intro, by simp [Group.Event.request?], by simp⟩
  | getForPeer | respond | drop => exact undisturbed.elim

/-! ## Fetches that break off -/

/-- Nodes may come to keep more keys. -/
theorem mono {more : Nat → String → Prop} (weaker : ∀ node key, may node key → more node key) :
    Placed start more data name asked cluster where
  owned := fun node key owns => weaker node key (placed.owned node key owns)
  coherent := placed.coherent
  nodes := placed.nodes
  down := placed.down
  called := placed.called
  hosted := by
    intro node member registered
    obtain ⟨home, found, here, attached, confined⟩ := placed.hosted node member registered
    exact ⟨home, found, here, attached, confined.mono (weaker node)⟩
  fetched := by
    intro call transit present
    refine (placed.fetched call transit present).mono fun excused info node own registered => ?_
    exact weaker node _ (excused info node own registered)

/-- A node may keep the key of which its fetch breaks off. -/
theorem breakOff (attended : cluster.Attended none) (call : Nat) (causes : Causes) :
    Kept start (fun node key => may node key ∨
      cluster.Breaks name (.breakOff call causes) node key) data name
      (cluster.breakOff call causes) := by
  have wider : Placed start (fun node key => may node key ∨
      cluster.Breaks name (.breakOff call causes) node key) data name asked cluster :=
    placed.mono fun _ _ => Or.inl
  rw [Cluster.breakOff]
  split
  · rename_i transit fetch
    obtain ⟨known, -⟩ := placed.coherent.fetched call transit fetch
    refine ⟨⟨asked, wider.setTransit known True.intro fun named => Or.inl ?_⟩,
      loadsPlaced_of_none (by simp [Cluster.answer])⟩
    intro info node own registered
    obtain ⟨member, caller, stands⟩ : ∃ member caller,
        cluster.standing? call = some (member, caller) := attended.standing (by simp [own])
    obtain ⟨_, home, again, found, waits⟩ := standing?_eq_some.mp stands
    cases own.symm.trans again
    obtain ⟨same, -⟩ := placed.coherent.held member home call caller found waits
    rw [named, ← find?_congr placed.nodes] at registered
    exact Or.inr ⟨call, causes, member, caller, rfl, by simp [fetch], stands, registered,
      congrArg Prod.snd same.symm⟩
  · exact ⟨⟨asked, wider⟩, loadsPlaced_of_none (by simp)⟩

theorem make (uniform : start.Uniform hash replicas name) (attended : cluster.Attended none)
    {move : Move} (undisturbed : move.Undisturbed) (truthful : cluster.Truthful data name move) :
    Kept start (fun node key => may node key ∨ cluster.Breaks name move node key) data name
      (cluster.make move) := by
  cases move with
  | event event =>
      have wider : Placed start (fun node key => may node key ∨
          cluster.Breaks name (.event event) node key) data name asked cluster :=
        placed.mono fun _ _ => Or.inl
      exact wider.step uniform undisturbed truthful
  | breakOff call causes => exact placed.breakOff attended call causes
  | applySettings | setMembers | goDown | goUp | register | attach => exact undisturbed.elim

theorem play (uniform : start.Uniform hash replicas name) (attended : cluster.Attended none)
    {history : List Move} (undisturbed : ∀ move ∈ history, move.Undisturbed)
    (truthful : cluster.TruthfulThroughout data name history) :
    Kept start (fun node key => may node key ∨ cluster.Broke name history node key) data name
      (cluster.play history) := by
  -- Each move adds the keys of which a fetch breaks off in it to those that nodes may keep.
  induction history generalizing cluster asked may with
  | nil =>
      exact ⟨⟨asked, placed.mono fun _ _ => Or.inl⟩, loadsPlaced_of_none (by simp [Cluster.play])⟩
  | cons move history ih =>
      obtain ⟨first, others⟩ := truthful
      obtain ⟨⟨later, next⟩, loads⟩ :=
        placed.make uniform attended (undisturbed move List.mem_cons_self) first
      have permissive : Coherent (fun _ _ _ => True) asked cluster :=
        placed.coherent.mono fun _ _ _ _ => True.intro
      obtain ⟨final, loadsLater⟩ := ih next (attended.make permissive move)
        (fun other present => undisturbed other (List.mem_cons_of_mem _ present)) others
      simp only [or_assoc] at final loadsLater
      refine ⟨final, fun call member key present node registered => ?_⟩
      rcases List.mem_append.mp present with now | afterwards
      · rcases loads call member key now node registered with (allowed | broke) | fails
        · exact Or.inl (Or.inl allowed)
        · exact Or.inl (Or.inr (Or.inl broke))
        · exact Or.inr fails
      · exact loadsLater call member key afterwards node registered

end Placed

end ReadThrough.Cluster
