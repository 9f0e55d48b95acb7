import ReadThrough.Proofs.Cluster.Handling

/-!
# A coherent cluster goes on

New calls take the next number, so what the earlier ones were asked for stays.
Neither an event nor a change of the nodes and their groups makes a cluster
incoherent, as long as the data sources and the nodes outside answer rightly.
-/

namespace ReadThrough.Cluster

/-- The cluster goes on; only new calls are added to what the calls were asked for. -/
structure Advance (right : String → String → Outcome → Prop) (asked later : Nat → String × String)
    (cluster : Cluster) (result : Cluster × List Effect) : Prop where
  agree : ∀ call, call < cluster.issued → later call = asked call
  coherent : Coherent right later result.1
  issued : cluster.issued ≤ result.1.issued
  calls : ∀ call, call < cluster.issued → Ordered.get? call cluster.calls = none →
    Ordered.get? call result.1.calls = none
  finishes : ∀ call outcome, call < cluster.issued → .finish call outcome ∈ result.2 →
    Ordered.get? call cluster.calls ≠ none ∧ right (asked call).1 (asked call).2 outcome
  made : ∀ call outcome, .finish call outcome ∈ result.2 → call < result.1.issued

def opened (cluster : Cluster) (member : Nat) (fetcher : Option Nat) : Cluster :=
  { cluster with
    calls := Ordered.put cluster.issued ⟨member, fetcher⟩ cluster.calls
    issued := cluster.issued + 1 }

theorem get?_calls_opened (cluster : Cluster) (member : Nat) (fetcher : Option Nat) (call : Nat) :
    Ordered.get? call (cluster.opened member fetcher).calls =
      if call = cluster.issued then some ⟨member, fetcher⟩ else Ordered.get? call cluster.calls :=
  Ordered.get?_put cluster.issued call _ cluster.calls

/-- The next call is asked for a key of a group. -/
def assign (asked : Nat → String × String) (cluster : Cluster) (name key : String) :
    Nat → String × String :=
  Function.update asked cluster.issued (name, key)

theorem assign_of_lt (asked : Nat → String × String) {cluster : Cluster} {call : Nat}
    (known : call < cluster.issued) (name key : String) :
    assign asked cluster name key call = asked call :=
  Function.update_of_ne (Nat.ne_of_lt known) _ _

theorem assign_self (asked : Nat → String × String) (cluster : Cluster) (name key : String) :
    assign asked cluster name key cluster.issued = (name, key) :=
  Function.update_self _ _ _

/-- The name of the group and the key for which a call runs a data source. -/
def loading? (cluster : Cluster) (call : Nat) : Option (String × String) := do
  let info ← Ordered.get? call cluster.calls
  let home ← cluster.members[info.member]?
  match ← home.group.caller? call with
  | ⟨key, .loading _ _⟩ => some (home.group.name, key)
  | _ => none

section

variable {right : String → String → Outcome → Prop} {asked : Nat → String × String}
  {cluster : Cluster} {member call : Nat}

theorem Coherent.opened (coherent : Coherent right asked cluster) {home : Member}
    (found : cluster.members[member]? = some home) (key : String) {fetcher : Option Nat}
    (forwards : ∀ other, fetcher = some other →
      other < cluster.issued ∧ asked other = (home.group.name, key)) :
    Coherent right (assign asked cluster home.group.name key)
      (cluster.opened member fetcher) where
  registered := coherent.registered
  sound := coherent.sound
  held := by
    intro number another other caller present waits
    obtain ⟨same, info, own⟩ := coherent.held number another other caller present waits
    have known := (coherent.called other _ own).1
    rw [assign_of_lt asked known, get?_calls_opened, if_neg (Nat.ne_of_lt known)]
    exact ⟨same, info, own⟩
  called := by
    intro other info own
    rw [get?_calls_opened] at own
    split at own
    · subst other
      cases own
      rw [assign_self]
      exact ⟨Nat.lt_succ_self _, home, found, rfl⟩
    · obtain ⟨known, another, present, same⟩ := coherent.called other info own
      rw [assign_of_lt asked known]
      exact ⟨Nat.lt_succ_of_lt known, another, present, same⟩
  forwarded := by
    intro other number source own
    rw [get?_calls_opened] at own
    split at own
    · subst other
      cases own
      obtain ⟨known, same⟩ := forwards source rfl
      rw [assign_self, assign_of_lt asked known]
      exact ⟨Nat.lt_succ_of_lt known, same⟩
    · obtain ⟨known, same⟩ := coherent.forwarded other number source own
      rw [assign_of_lt asked known, assign_of_lt asked (coherent.called other _ own).1]
      exact ⟨Nat.lt_succ_of_lt known, same⟩
  fetched := by
    intro other transit own
    obtain ⟨known, fits⟩ := coherent.fetched other transit own
    rw [assign_of_lt asked known, get?_calls_opened, if_neg (Nat.ne_of_lt known)]
    exact ⟨Nat.lt_succ_of_lt known, fits⟩

/-- A new call is handled as one for its key. -/
theorem handled_begin (coherent : Coherent right asked cluster) {home : Member}
    (found : cluster.members[member]? = some home) {key : String} (fetcher : Option Nat)
    (forwards : ∀ other, fetcher = some other →
      other < cluster.issued ∧ asked other = (home.group.name, key))
    (event : Nat → Group.Event)
    (asks : event cluster.issued = .get cluster.issued key ∨
      event cluster.issued = .getForPeer cluster.issued key)
    (refused : ∀ name, right name "" (.error .invalidKey)) :
    Handled right (assign asked cluster home.group.name key) (cluster.opened member fetcher)
      cluster.issued (cluster.begin member fetcher event) := by
  have opened := coherent.opened found key forwards
  have own : Ordered.get? cluster.issued (cluster.opened member fetcher).calls =
      some ⟨member, fetcher⟩ := by
    rw [get?_calls_opened, if_pos rfl]
  have admissible : key = (assign asked cluster home.group.name key cluster.issued).2 ∧
      ((assign asked cluster home.group.name key cluster.issued).2 = "" →
        right home.group.name (assign asked cluster home.group.name key cluster.issued).2
          (.error .invalidKey)) := by
    rw [assign_self]
    refine ⟨rfl, ?_⟩
    rintro rfl
    exact refused home.group.name
  rcases asks with asks | asks
  · rw [begin, asks]
    exact handled_stepMember opened found (.get cluster.issued key) own admissible
  · rw [begin, asks]
    exact handled_stepMember opened found (.getForPeer cluster.issued key) own admissible

/-! ## Events -/

theorem Advance.stay {result : Cluster × List Effect} (coherent : Coherent right asked result.1)
    (issued : result.1.issued = cluster.issued) (calls : result.1.calls = cluster.calls)
    (quiet : ∀ call outcome, .finish call outcome ∉ result.2) :
    Advance right asked asked cluster result where
  agree := fun _ _ => rfl
  coherent := coherent
  issued := Nat.le_of_eq issued.symm
  calls := by
    intro call known absent
    rw [calls]
    exact absent
  finishes := by
    intro call outcome known finish
    exact absurd finish (quiet call outcome)
  made := by
    intro call outcome finish
    exact absurd finish (quiet call outcome)

/-- Only the numbers and the calls of the cluster at the start matter. -/
theorem Advance.of_calls {other : Cluster} {later : Nat → String × String}
    {result : Cluster × List Effect} (advance : Advance right asked later other result)
    (issued : other.issued = cluster.issued) (calls : other.calls = cluster.calls) :
    Advance right asked later cluster result where
  agree := issued ▸ advance.agree
  coherent := advance.coherent
  issued := issued ▸ advance.issued
  calls := issued ▸ calls ▸ advance.calls
  finishes := issued ▸ calls ▸ advance.finishes
  made := advance.made

theorem Handled.advance {result : Cluster × List Effect}
    (handled : Handled right asked cluster call result) (coherent : Coherent right asked cluster)
    (alive : ∀ other outcome, .finish other outcome ∈ result.2 →
      Ordered.get? other cluster.calls ≠ none) :
    Advance right asked asked cluster result where
  agree := fun _ _ => rfl
  coherent := handled.coherent
  issued := Nat.le_of_eq handled.issued.symm
  calls := fun other _ absent => handled.calls other absent
  finishes := by
    intro other outcome known finish
    obtain ⟨rfl, holds⟩ := handled.finishes other outcome finish
    exact ⟨alive other outcome finish, holds⟩
  made := by
    intro other outcome finish
    obtain ⟨info, own⟩ := Option.ne_none_iff_exists'.mp (alive other outcome finish)
    rw [handled.issued]
    exact (coherent.called other info own).1

/-- A new call does not touch the earlier ones. -/
theorem Handled.advance_opened {result : Cluster × List Effect} {fetcher : Option Nat}
    {name key : String}
    (handled : Handled right (assign asked cluster name key) (cluster.opened member fetcher)
      cluster.issued result) :
    Advance right asked (assign asked cluster name key) cluster result where
  agree := fun call known => assign_of_lt asked known name key
  coherent := handled.coherent
  issued := by
    rw [handled.issued]
    exact Nat.le_succ _
  calls := by
    intro other known absent
    refine handled.calls other ?_
    rw [get?_calls_opened, if_neg (Nat.ne_of_lt known)]
    exact absent
  finishes := by
    intro other outcome known finish
    obtain ⟨rfl, -⟩ := handled.finishes other outcome finish
    exact absurd known (Nat.lt_irrefl _)
  made := by
    intro other outcome finish
    obtain ⟨rfl, -⟩ := handled.finishes other outcome finish
    rw [handled.issued]
    exact Nat.lt_succ_self _

/-- An event brings only right answers into the cluster. -/
def Event.Admissible (right : String → String → Outcome → Prop) (cluster : Cluster) :
    Event → Prop
  | .respond call (.ok value) => ∀ address name key,
      Ordered.get? call cluster.transits = some (.travelling address name key) →
        right name key (.ok value)
  | .loaded call result => ∀ name key, cluster.loading? call = some (name, key) →
      right name key (Group.outcomeOf result)
  | .drop call => Ordered.get? call cluster.calls ≠ none →
      ∀ name key, right name key (.error .cancelled)
  | _ => True

theorem Coherent.unknown (coherent : Coherent right asked cluster) :
    Coherent right asked { cluster with issued := cluster.issued + 1 } where
  registered := coherent.registered
  sound := coherent.sound
  held := coherent.held
  called := by
    intro call info own
    obtain ⟨known, home⟩ := coherent.called call info own
    exact ⟨Nat.lt_succ_of_lt known, home⟩
  forwarded := by
    intro call number fetcher own
    obtain ⟨known, same⟩ := coherent.forwarded call number fetcher own
    exact ⟨Nat.lt_succ_of_lt known, same⟩
  fetched := by
    intro call transit own
    obtain ⟨known, fits⟩ := coherent.fetched call transit own
    exact ⟨Nat.lt_succ_of_lt known, fits⟩

theorem advance_request (coherent : Coherent right asked cluster) (node : Nat) (name : String)
    {key : String} {event : Nat → Group.Event}
    (asks : event cluster.issued = .get cluster.issued key ∨
      event cluster.issued = .getForPeer cluster.issued key)
    (refused : ∀ name, right name "" (.error .invalidKey)) :
    ∃ later, Advance right asked later cluster (cluster.request node name event) := by
  rw [request]
  split
  · rename_i member present
    obtain ⟨home, found, -⟩ := coherent.registered node name member present
    have handled := handled_begin coherent found none (by simp) event asks refused
    exact ⟨_, handled.advance_opened⟩
  · have own (call : Nat) (outcome : Outcome) (finish : .finish call outcome ∈
        [Effect.finish cluster.issued (.error (.unknownGroup name))]) : call = cluster.issued := by
      cases List.mem_singleton.mp finish
      rfl
    refine ⟨asked, fun _ _ => rfl, coherent.unknown, Nat.le_succ _, fun _ _ absent => absent,
      ?_, ?_⟩
    · intro call outcome known finish
      exact absurd (own call outcome finish) (Nat.ne_of_lt known)
    · intro call outcome finish
      rw [own call outcome finish]
      exact Nat.lt_succ_self _

theorem advance_answer (coherent : Coherent right asked cluster) (known : call < cluster.issued)
    {result : Except Causes Bytes}
    (holds : ∀ value, result = .ok value → right (asked call).1 (asked call).2 (.ok value)) :
    Advance right asked asked cluster (cluster.answer call result) :=
  .stay (coherent.answer known holds) rfl rfl (by simp [answer])

/-- A node takes up the fetch of a call, if it has the group. -/
def deliver (cluster : Cluster) (fetcher node : Nat) (group key : String) :
    Cluster × List Effect :=
  match cluster.find? node group with
  | none => cluster.answer fetcher (present (.error (.unknownGroup group)))
  | some member =>
    (cluster.setTransit fetcher (.serving cluster.issued)).begin member (some fetcher)
      fun call => .getForPeer call key

/-- A fetch that reaches an address fails there, or the node with the address takes it up. -/
theorem serve_cases (cluster : Cluster) (fetcher : Nat) (address name key : String) :
    (∃ causes, cluster.serve fetcher address name key = cluster.answer fetcher (.error causes)) ∨
      ∃ node, cluster.nodeAt? address = some node ∧
        cluster.serve fetcher address name key = cluster.deliver fetcher node name key := by
  rw [serve]
  split
  · exact Or.inl ⟨_, rfl⟩
  · split
    · exact Or.inl ⟨_, rfl⟩
    · rename_i node reached
      exact Or.inr ⟨node, reached, rfl⟩

/-- A fetch that a node takes up is answered with an error at once or by a call for its key. -/
theorem advance_deliver (coherent : Coherent right asked cluster) {address name key : String}
    (fetch : Ordered.get? call cluster.transits = some (.travelling address name key)) (node : Nat)
    (refused : ∀ name, right name "" (.error .invalidKey)) :
    ∃ later, Advance right asked later cluster (cluster.deliver call node name key) := by
  obtain ⟨known, underWay, asks⟩ := coherent.fetched call _ fetch
  rw [deliver]
  split
  · exact ⟨asked, advance_answer coherent known (by simp [present])⟩
  · rename_i member present
    obtain ⟨home, found, rfl⟩ := coherent.registered node name member present
    have waiting : Coherent right asked
        (cluster.setTransit call (.serving cluster.issued)) :=
      coherent.setTransit known underWay
    have forwards (other : Nat) (same : some call = some other) :
        other < cluster.issued ∧ asked other = (home.group.name, key) := by
      cases same
      exact ⟨known, asks⟩
    have handled := handled_begin waiting found (some call) forwards
      (fun other => .getForPeer other key) (Or.inr rfl) refused
    exact ⟨_, handled.advance_opened.of_calls rfl rfl⟩

/-- A fetch that arrives is answered with an error at once or by a call for the same key. -/
theorem advance_serve (coherent : Coherent right asked cluster) {address name key : String}
    (fetch : Ordered.get? call cluster.transits = some (.travelling address name key))
    (refused : ∀ name, right name "" (.error .invalidKey)) :
    ∃ later, Advance right asked later cluster (cluster.serve call address name key) := by
  obtain ⟨known, -⟩ := coherent.fetched call _ fetch
  rcases serve_cases cluster call address name key with ⟨causes, same⟩ | ⟨node, -, same⟩
  · rw [same]
    exact ⟨asked, advance_answer coherent known (by simp)⟩
  · rw [same]
    exact advance_deliver coherent fetch node refused

/-- A call that is dropped is gone with the one that answers its fetch, and no call ends. -/
theorem advance_drop (coherent : Coherent right asked cluster)
    (holds : Ordered.get? call cluster.calls ≠ none →
      ∀ name key, right name key (.error .cancelled)) :
    Advance right asked asked cluster (cluster.step (.drop call)) ∧
      Ordered.get? call (cluster.step (.drop call)).1.calls = none ∧
      ∀ other outcome, .finish other outcome ∉ (cluster.step (.drop call)).2 := by
  rw [step]
  split
  · rename_i answering fetch
    obtain ⟨-, underWay⟩ := coherent.fetched call _ fetch
    obtain ⟨first, -, firstQuiet⟩ := handled_abandon coherent answering fun _ => holds underWay
    obtain ⟨second, gone, secondQuiet⟩ :=
      handled_abandon first.coherent call fun _ => holds underWay
    have issued := second.issued.trans first.issued
    have quiet (other : Nat) (outcome : Outcome) :
        .finish other outcome ∉ (cluster.abandon answering).2 ++
          ((cluster.abandon answering).1.abandon call).2 := by
      intro finish
      rcases List.mem_append.mp finish with early | late
      · exact firstQuiet other outcome early
      · exact secondQuiet other outcome late
    refine ⟨⟨fun _ _ => rfl, second.coherent, Nat.le_of_eq issued.symm, ?_, ?_, ?_⟩, gone, quiet⟩
    · intro other known absent
      exact second.calls other (first.calls other absent)
    · intro other outcome known finish
      exact absurd finish (quiet other outcome)
    · intro other outcome finish
      exact absurd finish (quiet other outcome)
  · obtain ⟨handled, gone, quiet⟩ := handled_abandon coherent call holds
    refine ⟨handled.advance coherent ?_, gone, quiet⟩
    intro other outcome finish
    exact absurd finish (quiet other outcome)

theorem advance_step (coherent : Coherent right asked cluster) (event : Event)
    (admissible : event.Admissible right cluster)
    (refused : ∀ name, right name "" (.error .invalidKey)) :
    ∃ later, Advance right asked later cluster (cluster.step event) := by
  cases event with
  | get node name key => exact advance_request coherent node name (Or.inl rfl) refused
  | getForPeer node name key => exact advance_request coherent node name (Or.inr rfl) refused
  | arrive call =>
      rw [step]
      split
      · rename_i address name key fetch
        exact advance_serve coherent fetch refused
      · exact ⟨asked, .stay coherent rfl rfl (by simp)⟩
  | respond call result =>
      rw [step]
      split
      · rename_i address name key fetch
        obtain ⟨known, -, asks⟩ := coherent.fetched call _ fetch
        refine ⟨asked, advance_answer coherent known ?_⟩
        rintro value rfl
        rw [asks]
        exact admissible address name key fetch
      · exact ⟨asked, .stay coherent rfl rfl (by simp)⟩
  | receive call elapsed =>
      rw [step]
      split
      · rename_i result fetch
        obtain ⟨-, fits⟩ := coherent.fetched call _ fetch
        have received := coherent.removeTransit call
        have brings (info : Call) (home : Member)
            (own : Ordered.get? call cluster.calls = some info)
            (found : cluster.members[info.member]? = some home) :
            Group.Event.Admissible (right home.group.name) home.group (asked call).2
              (.fetched call elapsed result) := by
          obtain ⟨-, other, again, name⟩ := coherent.called call info own
          cases found.symm.trans again
          cases result with
          | ok value =>
              rw [name]
              exact fits
          | error causes => exact True.intro
        obtain ⟨handled, alive⟩ := handled_stepCall received (.fetched call elapsed result) brings
        exact ⟨asked, (handled.advance received alive).of_calls rfl rfl⟩
      · exact ⟨asked, .stay coherent rfl rfl (by simp)⟩
  | loaded call result =>
      have brings (info : Call) (home : Member)
          (own : Ordered.get? call cluster.calls = some info)
          (found : cluster.members[info.member]? = some home) :
          Group.Event.Admissible (right home.group.name) home.group (asked call).2
            (.loaded call result) := by
        intro lookup ticket waits
        refine admissible home.group.name (asked call).2 ?_
        simp [loading?, own, found, waits]
      obtain ⟨handled, alive⟩ := handled_stepCall coherent (.loaded call result) brings
      exact ⟨asked, handled.advance coherent alive⟩
  | resume call =>
      obtain ⟨handled, alive⟩ := handled_stepCall coherent (.resume call) fun _ _ _ _ => True.intro
      exact ⟨asked, handled.advance coherent alive⟩
  | drop call => exact ⟨asked, (advance_drop coherent admissible).1⟩

/-! ## Nodes and groups -/

theorem find?_eq_some {node : Nat} {name : String} :
    cluster.find? node name = some member ↔
      ∃ home, cluster.nodes[node]? = some home ∧ Ordered.get? name home.registry = some member :=
  Option.bind_eq_some_iff

theorem coherent_ofNodes (pickers : List Peer.Picker) :
    Coherent right asked (ofNodes pickers) where
  registered := by
    intro node name member found
    obtain ⟨home, present, known⟩ := find?_eq_some.mp found
    obtain ⟨picker, -, rfl⟩ := List.mem_map.mp (List.mem_of_getElem? present)
    cases known
  sound := by
    intro member home found
    cases found
  held := by
    intro member home call caller found
    cases found
  called := by
    intro call info own
    cases own
  forwarded := by
    intro call member fetcher own
    cases own
  fetched := by
    intro call transit own
    cases own

/-- The nodes may change in all that does not concern their groups. -/
theorem Coherent.of_groups (coherent : Coherent right asked cluster) {next : Cluster}
    (groups : ∀ node name, next.find? node name = cluster.find? node name)
    (members : next.members = cluster.members) (calls : next.calls = cluster.calls)
    (transits : next.transits = cluster.transits) (issued : next.issued = cluster.issued) :
    Coherent right asked next where
  registered := by
    intro node name member found
    rw [groups] at found
    rw [members]
    exact coherent.registered node name member found
  sound := by
    rw [members]
    exact coherent.sound
  held := by
    rw [members, calls]
    exact coherent.held
  called := by
    rw [members, calls, issued]
    exact coherent.called
  forwarded := by
    rw [calls, issued]
    exact coherent.forwarded
  fetched := by
    rw [calls, transits, issued]
    exact coherent.fetched

theorem find?_setPicker (cluster : Cluster) (node : Nat) (picker : Peer.Picker) (other : Nat)
    (name : String) :
    (cluster.setPicker node picker).find? other name = cluster.find? other name := by
  rw [find?, find?, setPicker]
  cases present : cluster.nodes[other]? with
  | none => simp [List.getElem?_modify, present]
  | some home =>
      by_cases same : node = other
      · simp [present, same]
      · simp [present, same]

theorem Coherent.setPicker (coherent : Coherent right asked cluster) (node : Nat)
    (picker : Peer.Picker) : Coherent right asked (cluster.setPicker node picker) :=
  coherent.of_groups (find?_setPicker cluster node picker) rfl rfl rfl rfl

theorem Coherent.applySettings (coherent : Coherent right asked cluster) (node : Nat)
    (settings : Peer.Settings) (members : List String) :
    Coherent right asked (cluster.applySettings node settings members).1 := by
  rw [Cluster.applySettings]
  split
  · exact coherent.setPicker node _
  · exact coherent

theorem Coherent.setMembers (coherent : Coherent right asked cluster) (node : Nat)
    (members : List String) : Coherent right asked (cluster.setMembers node members).1 := by
  rw [Cluster.setMembers]
  split
  · exact coherent.applySettings node _ members
  · exact coherent

/-- A registered group is found under its name at its node, and nothing else changes there. -/
theorem find?_register {node : Nat} {host : Node} (present : cluster.nodes[node]? = some host)
    (group : Group) (other : Nat) (name : String) :
    (cluster.register node group).1.find? other name =
      if other = node ∧ name = group.name then some cluster.members.length
      else cluster.find? other name := by
  have inside := (List.getElem?_eq_some_iff.mp present).1
  by_cases same : other = node
  · subst same
    simp [find?, Cluster.register, inside, Ordered.get?_put]
  · simp [find?, Cluster.register, present, same, List.getElem?_set_ne (Ne.symm same)]

theorem Coherent.register (coherent : Coherent right asked cluster) (node : Nat)
    (name : String) (budget : Nat) :
    Coherent right asked (cluster.register node (Group.empty name budget)).1 := by
  cases present : cluster.nodes[node]? with
  | none =>
      simp only [Cluster.register, present]
      exact coherent
  | some host =>
      have groups := find?_register present (Group.empty name budget)
      have old {number : Nat} {home : Member} (found : cluster.members[number]? = some home) :
          (cluster.members ++ [⟨Group.empty name budget, node⟩])[number]? = some home := by
        rw [List.getElem?_append_left (List.getElem?_eq_some_iff.mp found).1, found]
      have oldOrNew {number : Nat} {home : Member}
          (found : (cluster.members ++ [⟨Group.empty name budget, node⟩])[number]? = some home) :
          cluster.members[number]? = some home ∨ home = ⟨Group.empty name budget, node⟩ := by
        rw [List.getElem?_append] at found
        split at found
        · exact Or.inl found
        · exact Or.inr (List.mem_singleton.mp (List.mem_of_getElem? found))
      simp only [Cluster.register, present] at groups ⊢
      refine ⟨?_, ?_, ?_, ?_, coherent.forwarded, coherent.fetched⟩
      · intro other title number found
        rw [groups] at found
        split at found
        · rename_i same
          cases found
          exact ⟨_, List.getElem?_concat_length, same.2.symm⟩
        · obtain ⟨home, stored, named⟩ := coherent.registered other title number found
          exact ⟨home, old stored, named⟩
      · intro number home found
        rcases oldOrNew found with stored | rfl
        · exact coherent.sound number home stored
        · exact ⟨fun _ => "", fun _ => "", .empty name budget⟩
      · intro number home call caller found waits
        rcases oldOrNew found with stored | rfl
        · exact coherent.held number home call caller stored waits
        · cases waits
      · intro call info own
        obtain ⟨known, home, stored, same⟩ := coherent.called call info own
        exact ⟨known, home, old stored, same⟩

theorem Coherent.attach (coherent : Coherent right asked cluster) {next : Cluster}
    (attached : cluster.attach member = .ok next) : Coherent right asked next := by
  rw [Cluster.attach] at attached
  split at attached
  · rename_i home found
    rw [Group.attach] at attached
    split at attached
    · cases attached
    · cases attached
      obtain ⟨lookupKey, sourceKey, sound⟩ := coherent.sound member home found
      refine coherent.withGroup found rfl ⟨lookupKey, sourceKey, ?_⟩ ?_
      · exact ⟨sound.cached, sound.lookups, sound.sourceRuns, sound.callers⟩
      · intro call caller waits
        exact coherent.held member home call caller found waits
  · cases attached
    exact coherent

end

end ReadThrough.Cluster
