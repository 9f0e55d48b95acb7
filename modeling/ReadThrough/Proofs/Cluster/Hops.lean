import ReadThrough.Proofs.Cluster.Attended

/-!
# At most one hop

Only the call of a client sets out to another node, when it is made and at most
once, and it bears the next number.  A call that answers a fetch never does.
So whatever the nodes think of the owner of a key, a client causes at most one
hop from node to node.
-/

namespace ReadThrough.Group

def Effect.fetcher? : Effect → Option Nat
  | .fetch call _ _ => some call
  | .load .. | .wake _ | .finish .. | .log _ => none

theorem filterMap_outwardOf (effects : List Effect) :
    (outwardOf effects).filterMap Effect.fetcher? = effects.filterMap Effect.fetcher? := by
  induction effects with
  | nil => rfl
  | cons effect effects ih =>
      cases effect with
      | fetch => exact congrArg (List.cons _) ih
      | load | wake | finish | log => exact ih

/-- An event asks another node only as the request of a client, and at most once. -/
theorem Transition.fetchers {choose : Choice} {group next : Group} {event : Event}
    {effects : List Effect} (transition : Transition choose group event next effects) :
    effects.filterMap Effect.fetcher? = [] ∨
      effects.filterMap Effect.fetcher? = [event.call] ∧
        ∃ key, event.request? = some ⟨key, false⟩ := by
  have upshot := transition.upshot
  rw [← filterMap_outwardOf]
  generalize same : outwardOf effects = outward at upshot ⊢
  cases upshot with
  | nothing | finish => exact Or.inl rfl
  | @fetch key address ticket found =>
      have present : .fetch event.call address key ∈ effects := by
        refine (List.mem_filter.mp (?_ : _ ∈ outwardOf effects)).1
        rw [same]
        exact List.mem_singleton.mpr rfl
      obtain ⟨-, misses, -⟩ := transition.fetch_asked present
      exact Or.inr ⟨rfl, key, misses.made⟩

end ReadThrough.Group

namespace ReadThrough.Cluster

def Effect.fetcher? : Effect → Option Nat
  | .fetch call _ _ _ => some call
  | .load .. | .reply _ | .wake _ | .finish .. | .log _ => none

/-- The calls that set out to another node, in this order. -/
def hops (effects : List Effect) : List Nat := effects.filterMap Effect.fetcher?

theorem hops_append (first second : List Effect) :
    hops (first ++ second) = hops first ++ hops second :=
  List.filterMap_append

theorem hops_conclude (cluster : Cluster) (call : Nat) (outcome : Outcome) :
    hops (cluster.conclude call outcome).2 = [] := by
  rw [conclude]
  split <;> rfl

theorem hops_absorbAll {cluster : Cluster} {member : Nat} {home : Member}
    (found : cluster.members[member]? = some home) (effects : List Group.Effect) :
    hops (absorbAll member cluster effects).2 = effects.filterMap Group.Effect.fetcher? := by
  induction effects generalizing cluster with
  | nil => rfl
  | cons effect effects ih =>
      have first : hops (absorb member cluster effect).2 =
          [effect].filterMap Group.Effect.fetcher? := by
        cases effect with
        | fetch call address key =>
            rw [absorb, found]
            rfl
        | finish call outcome => exact hops_conclude cluster call outcome
        | load | wake | log => rfl
      have later := ih ((congrArg (·[member]?) (members_absorb member cluster effect)).trans found)
      rw [absorbAll_cons, hops_append, first, later, ← List.filterMap_append]
      rfl

theorem hops_stepMember (cluster : Cluster) (member : Nat) (event : Group.Event) :
    hops (cluster.stepMember member event).2 = [] ∨
      hops (cluster.stepMember member event).2 = [event.call] ∧
        ∃ key, event.request? = some ⟨key, false⟩ := by
  cases found : cluster.members[member]? with
  | some home =>
      rw [stepMember_eq found,
        hops_absorbAll ((members_withGroup found _ member).trans (if_pos rfl))]
      exact (Group.transition (cluster.choiceOf home) home.group event).fetchers
  | none =>
      rw [stepMember, found]
      exact Or.inl rfl

/-! ## Calls that stay what they are -/

/-- New calls get new numbers, and the others keep their groups and fetches. -/
structure Grows (cluster next : Cluster) : Prop where
  issued : cluster.issued ≤ next.issued
  calls : ∀ call info, Ordered.get? call next.calls = some info →
    Ordered.get? call cluster.calls = some info ∨ cluster.issued ≤ call

namespace Grows

variable {cluster next final : Cluster}

theorem refl (cluster : Cluster) : Grows cluster cluster :=
  ⟨Nat.le_refl _, fun _ _ => Or.inl⟩

theorem trans (first : Grows cluster next) (second : Grows next final) : Grows cluster final where
  issued := Nat.le_trans first.issued second.issued
  calls := by
    intro call info found
    rcases second.calls call info found with old | new
    · exact first.calls call info old
    · exact Or.inr (Nat.le_trans first.issued new)

theorem of_calls (issued : next.issued = cluster.issued) (calls : next.calls = cluster.calls) :
    Grows cluster next where
  issued := Nat.le_of_eq issued.symm
  calls := by
    intro call info found
    exact Or.inl (calls ▸ found)

theorem forget (cluster : Cluster) (call : Nat) : Grows cluster (cluster.forget call) where
  issued := Nat.le_refl _
  calls := by
    intro other info found
    rw [get?_calls_forget] at found
    split at found
    · cases found
    · exact Or.inl found

theorem stepMember (cluster : Cluster) (member : Nat) (event : Group.Event) :
    Grows cluster (cluster.stepMember member event).1 := by
  cases found : cluster.members[member]? with
  | none =>
      rw [Cluster.stepMember, found]
      exact .refl cluster
  | some home =>
      have reaction := reaction found event
      obtain ⟨-, -, issued, -⟩ := reaction.kept
      exact ⟨Nat.le_of_eq issued.symm, fun _ _ present => Or.inl (reaction.calls present)⟩

theorem stepCall (cluster : Cluster) (call : Nat) (event : Group.Event) :
    Grows cluster (cluster.stepCall call event).1 := by
  rw [Cluster.stepCall]
  split
  · exact .stepMember cluster _ event
  · exact .refl cluster

theorem abandon (cluster : Cluster) (call : Nat) : Grows cluster (cluster.abandon call).1 :=
  (Grows.stepCall cluster call (.drop call)).trans (.forget _ call)

theorem opened (cluster : Cluster) (member : Nat) (fetcher : Option Nat) :
    Grows cluster (cluster.opened member fetcher) where
  issued := Nat.le_succ _
  calls := by
    intro call info found
    rw [get?_calls_opened] at found
    split at found
    · rename_i same
      exact Or.inr (Nat.le_of_eq same.symm)
    · exact Or.inl found

end Grows

/-! ## Who sets out to another node -/

/-- Nobody sets out, or the next call does, which answers no fetch. -/
structure Sets (cluster : Cluster) (client : Prop) (result : Cluster × List Effect) : Prop where
  grows : Grows cluster result.1
  hops : hops result.2 = [] ∨ client ∧ hops result.2 = [cluster.issued] ∧
    cluster.issued < result.1.issued ∧
    ∀ info, Ordered.get? cluster.issued result.1.calls = some info → info.fetcher = none

section

variable {cluster : Cluster} {client : Prop}

theorem Sets.quiet {result : Cluster × List Effect} (grows : Grows cluster result.1)
    (silent : Cluster.hops result.2 = []) : Sets cluster client result :=
  ⟨grows, Or.inl silent⟩

/-- Only the numbers and the calls of the cluster at the start matter. -/
theorem Sets.of_calls {other : Cluster} {result : Cluster × List Effect}
    (sets : Sets other client result) (issued : other.issued = cluster.issued)
    (calls : other.calls = cluster.calls) : Sets cluster client result where
  grows := (Grows.of_calls issued calls).trans sets.grows
  hops := issued ▸ sets.hops

theorem sets_reported {changed : Cluster × List Log}
    (kept : changed.1.issued = cluster.issued ∧ changed.1.calls = cluster.calls) :
    Sets cluster client (reported changed) := by
  refine .quiet (.of_calls kept.1 kept.2) ?_
  simp [reported, hops, Effect.fetcher?]

theorem sets_stepCall (cluster : Cluster) (call : Nat) (event : Group.Event)
    (unrequested : event.request? = none) : Sets cluster client (cluster.stepCall call event) := by
  refine .quiet (.stepCall cluster call event) ?_
  rw [stepCall]
  split
  · rename_i info own
    rcases hops_stepMember cluster info.member event with silent | ⟨-, key, asks⟩
    · exact silent
    · cases unrequested.symm.trans asks
  · rfl

theorem hops_abandon (cluster : Cluster) (call : Nat) : hops (cluster.abandon call).2 = [] := by
  have dropped : Sets cluster False (cluster.stepCall call (.drop call)) :=
    sets_stepCall cluster call (.drop call) rfl
  rcases dropped.hops with silent | ⟨⟨⟩, -⟩
  exact silent

theorem sets_begin (cluster : Cluster) (member : Nat) {fetcher : Option Nat}
    {event : Nat → Group.Event} (numbered : (event cluster.issued).call = cluster.issued)
    (asks : ∀ key, (event cluster.issued).request? = some ⟨key, false⟩ →
      client ∧ fetcher = none) :
    Sets cluster client (cluster.begin member fetcher event) := by
  have opened := Grows.opened cluster member fetcher
  have grows := Grows.stepMember (cluster.opened member fetcher) member (event cluster.issued)
  refine ⟨opened.trans grows, ?_⟩
  rcases hops_stepMember (cluster.opened member fetcher) member (event cluster.issued) with
    silent | ⟨hop, key, request⟩
  · exact Or.inl silent
  · obtain ⟨client, rfl⟩ := asks key request
    refine Or.inr ⟨client, numbered ▸ hop, grows.issued, fun info found => ?_⟩
    rcases grows.calls _ info found with old | new
    · rw [get?_calls_opened, if_pos rfl] at old
      cases old
      rfl
    · exact absurd new (Nat.not_succ_le_self _)

theorem sets_request (cluster : Cluster) (node : Nat) (name : String)
    {event : Nat → Group.Event} (numbered : (event cluster.issued).call = cluster.issued)
    (asks : ∀ key, (event cluster.issued).request? = some ⟨key, false⟩ → client) :
    Sets cluster client (cluster.request node name event) := by
  rw [request]
  split
  · exact sets_begin cluster _ numbered fun key request => ⟨asks key request, rfl⟩
  · exact .quiet ⟨Nat.le_succ _, fun _ _ => Or.inl⟩ rfl

theorem sets_answer (cluster : Cluster) (call : Nat) (result : Except Causes Bytes) :
    Sets cluster client (cluster.answer call result) :=
  .quiet (.of_calls rfl rfl) rfl

theorem sets_deliver (cluster : Cluster) (fetcher node : Nat) (name key : String) :
    Sets cluster client (cluster.deliver fetcher node name key) := by
  rw [deliver]
  split
  · exact sets_answer cluster fetcher _
  · rename_i member _
    refine Sets.of_calls (sets_begin (cluster.setTransit fetcher (.serving cluster.issued)) member
      rfl ?_) rfl rfl
    rintro _ ⟨⟩

theorem sets_step (cluster : Cluster) (event : Event) :
    Sets cluster (∃ node name key, event = .get node name key) (cluster.step event) := by
  cases event with
  | get node name key =>
      exact sets_request cluster node name rfl fun _ _ => ⟨node, name, key, rfl⟩
  | getForPeer node name key =>
      refine sets_request cluster node name rfl ?_
      rintro _ ⟨⟩
  | arrive call =>
      rw [step]
      split
      · rename_i address name key _
        rcases serve_cases cluster call address name key with ⟨causes, same⟩ | ⟨node, -, same⟩
        · rw [same]
          exact sets_answer cluster call _
        · rw [same]
          exact sets_deliver cluster call node name key
      · exact .quiet (.refl cluster) rfl
  | respond call result =>
      rw [step]
      split
      · exact sets_answer cluster call result
      · exact .quiet (.refl cluster) rfl
  | receive call elapsed =>
      rw [step]
      split
      · rename_i result _
        exact (sets_stepCall { cluster with
          transits := cluster.transits.filter fun entry => entry.1 ≠ call } call
          (.fetched call elapsed result) rfl).of_calls rfl rfl
      · exact .quiet (.refl cluster) rfl
  | loaded call result => exact sets_stepCall cluster call (.loaded call result) rfl
  | resume call => exact sets_stepCall cluster call (.resume call) rfl
  | drop call =>
      rw [step]
      split
      · rename_i answering _
        refine .quiet ((Grows.abandon cluster answering).trans (.abandon _ call)) ?_
        change hops ((cluster.abandon answering).2 ++ _) = []
        rw [hops_append, hops_abandon, hops_abandon]
        rfl
      · exact .quiet (.abandon cluster call) (hops_abandon cluster call)

theorem sets_make (cluster : Cluster) (move : Move) :
    Sets cluster (∃ node name key, move = .event (.get node name key)) (cluster.make move) := by
  cases move with
  | event event =>
      obtain ⟨grows, hops⟩ := sets_step cluster event
      refine ⟨grows, hops.imp_right (And.imp_left ?_)⟩
      rintro ⟨node, name, key, rfl⟩
      exact ⟨node, name, key, rfl⟩
  | breakOff call causes =>
      rw [make, breakOff]
      split
      · exact sets_answer cluster call _
      · exact .quiet (.refl cluster) rfl
  | applySettings node settings members =>
      exact sets_reported (kept_applySettings cluster node settings members)
  | setMembers node members => exact sets_reported (kept_setMembers cluster node members)
  | goDown | goUp => exact .quiet (.of_calls rfl rfl) rfl
  | register node name budget =>
      exact sets_reported (kept_register cluster node (.empty name budget))
  | attach member =>
      rw [make]
      split
      · rename_i next attached
        obtain ⟨issued, calls⟩ := kept_attach attached
        exact .quiet (.of_calls issued calls) rfl
      · exact .quiet (.refl cluster) rfl

/-- Only the request of a client sets out to another node. -/
theorem sets_undergo (cluster : Cluster) (occurrence : Occurrence) :
    Sets cluster (∃ node name key, occurrence = .move (.event (.get node name key)))
      (cluster.undergo occurrence) := by
  cases occurrence with
  | move move =>
      obtain ⟨grows, hops⟩ := sets_make cluster move
      refine ⟨grows, hops.imp_right (And.imp_left ?_)⟩
      rintro ⟨node, name, key, rfl⟩
      exact ⟨node, name, key, rfl⟩
  | reach call node =>
      rw [undergo, reach]
      split
      · rename_i address name key _
        exact sets_deliver cluster call node name key
      · exact .quiet (.refl cluster) rfl

end

/-! ## What happens on behalf of a client -/

/-- At some moment, the call answers the fetch of another one. -/
def Answers (start : Cluster) (history : List Occurrence) (call fetcher : Nat) : Prop :=
  ∃ before after member, history = before ++ after ∧
    Ordered.get? call (start.undergoAll before).1.calls = some ⟨member, some fetcher⟩

/-- The call is that of the client, or answers a fetch on behalf of the client. -/
inductive OnBehalf (start : Cluster) (history : List Occurrence) (client : Nat) : Nat → Prop where
  | own : OnBehalf start history client client
  | answers {call fetcher : Nat} (onBehalf : OnBehalf start history client fetcher)
      (answers : start.Answers history call fetcher) : OnBehalf start history client call

/-- The calls that have set out to another node have ascending numbers and answer no fetch. -/
structure Accounted (hops : List Nat) (cluster : Cluster) : Prop where
  ascending : hops.Pairwise (· < ·)
  known : ∀ call ∈ hops, call < cluster.issued
  clients : ∀ call ∈ hops, ∀ info, Ordered.get? call cluster.calls = some info →
    info.fetcher = none

section

variable {cluster : Cluster}

/-- Whatever happens, the calls that set out are accounted for. -/
theorem Accounted.undergo {before : List Nat} (accounted : Accounted before cluster)
    (occurrence : Occurrence) :
    Accounted (before ++ hops (cluster.undergo occurrence).2) (cluster.undergo occurrence).1 := by
  obtain ⟨grows, sets⟩ := sets_undergo cluster occurrence
  have clients (call : Nat) (old : call ∈ before) (info : Call)
      (found : Ordered.get? call (cluster.undergo occurrence).1.calls = some info) :
      info.fetcher = none := by
    rcases grows.calls call info found with known | new
    · exact accounted.clients call old info known
    · exact absurd (accounted.known call old) (Nat.not_lt.mpr new)
  rcases sets with silent | ⟨-, hop, fresh, client⟩
  · rw [silent, List.append_nil]
    exact ⟨accounted.ascending,
      fun call old => Nat.lt_of_lt_of_le (accounted.known call old) grows.issued, clients⟩
  · rw [hop]
    refine ⟨?_, ?_, ?_⟩
    · refine List.pairwise_append.mpr ⟨accounted.ascending, List.pairwise_singleton _ _, ?_⟩
      intro call old next new
      rw [List.mem_singleton.mp new]
      exact accounted.known call old
    · intro call present
      rcases List.mem_append.mp present with old | new
      · exact Nat.lt_of_lt_of_le (accounted.known call old) grows.issued
      · rw [List.mem_singleton.mp new]
        exact fresh
    · intro call present
      rcases List.mem_append.mp present with old | new
      · exact clients call old
      · rw [List.mem_singleton.mp new]
        exact client

theorem accounted_undergoAll (pickers : List Peer.Picker) (history : List Occurrence) :
    Accounted (hops ((ofNodes pickers).undergoAll history).2)
      ((ofNodes pickers).undergoAll history).1 := by
  induction history using List.reverseRecOn with
  | nil => exact ⟨.nil, nofun, nofun⟩
  | append_singleton history occurrence ih =>
      rw [undergoAll_concat, hops_append]
      exact ih.undergo occurrence

/-- A call that sets out later has a later number. -/
theorem issued_le_of_hop (cluster : Cluster) (later : List Occurrence) :
    ∀ call ∈ hops (cluster.undergoAll later).2, cluster.issued ≤ call := by
  induction later generalizing cluster with
  | nil => exact nofun
  | cons occurrence later ih =>
      intro call present
      obtain ⟨grows, sets⟩ := sets_undergo cluster occurrence
      rw [undergoAll, hops_append] at present
      rcases List.mem_append.mp present with now | afterwards
      · rcases sets with silent | ⟨-, hop, -⟩
        · rw [silent] at now
          cases now
        · rw [hop] at now
          exact Nat.le_of_eq (List.mem_singleton.mp now).symm
      · exact Nat.le_trans grows.issued (ih _ call afterwards)

/-- A call that sets out never answers a fetch. -/
theorem not_answers_of_hop (pickers : List Peer.Picker) (history : List Occurrence) {call : Nat}
    (hop : call ∈ hops ((ofNodes pickers).undergoAll history).2) (fetcher : Nat) :
    ¬ (ofNodes pickers).Answers history call fetcher := by
  rintro ⟨before, after, member, rfl, answers⟩
  obtain ⟨-, asked, coherent⟩ := reached_undergoAll pickers before
  have known := (coherent.called call _ answers).1
  rw [undergoAll_append, hops_append] at hop
  rcases List.mem_append.mp hop with early | late
  · cases (accounted_undergoAll pickers before).clients call early _ answers
  · exact absurd known (Nat.not_lt.mpr (issued_le_of_hop _ after call late))

/-- What sets out on behalf of a client is its own call. -/
theorem OnBehalf.eq_of_hop {pickers : List Peer.Picker} {history : List Occurrence}
    {client call : Nat} (onBehalf : (ofNodes pickers).OnBehalf history client call)
    (hop : call ∈ hops ((ofNodes pickers).undergoAll history).2) : call = client := by
  cases onBehalf with
  | own => rfl
  | answers _ answers => exact absurd answers (not_answers_of_hop pickers history hop _)

end

/--
In a group, whatever it takes part in, at most one call waits for the data source
and at most one for another node, for each key.  For a request, at most one node
is asked and then at most once the data source, and for another node only the
data source.  That is asked when the request is made, if no node was picked, or
once the node that was asked has failed.  In a cluster, however its nodes choose
others and whichever node a fetch reaches, only the request of a client sets out
to another node, and at most one call does on behalf of a client.
-/
theorem at_most_one_hop :
    (∀ (name : String) (budget : Nat) (history : List Group.Action),
      let start := Group.empty name budget
      let group := (start.run history).1
      (∀ key first second, Group.Outstanding start history (.load first key) →
        Group.Outstanding start history (.load second key) → first = second) ∧
      (∀ key first second address other,
        Group.Outstanding start history (.fetch first address key) →
        Group.Outstanding start history (.fetch second other key) →
          first = second ∧ address = other) ∧
      (∀ call request questions, Group.Inquiries start call request history questions →
        request.Permits call questions) ∧
      ∀ choose event call key, .load call key ∈ (group.step choose event).2 →
        (∃ request, event.Opens group request ∧ event.call = call ∧ request.key = key ∧
          (request.forPeer = false → (group.pick choose key).1 = none)) ∨
        ∃ address elapsed causes, event = .fetched call elapsed (.error causes) ∧
          Group.Outstanding start history (.fetch call address key)) ∧
    ∀ (pickers : List Peer.Picker) (history : List Occurrence),
      let start := ofNodes pickers
      let calls := hops (start.undergoAll history).2
      (∀ before occurrence after, history = before ++ occurrence :: after →
        hops ((start.undergoAll before).1.undergo occurrence).2 ≠ [] →
          ∃ node name key, occurrence = .move (.event (.get node name key))) ∧
      ∀ client first second (i j : Nat), calls[i]? = some first → calls[j]? = some second →
        start.OnBehalf history client first → start.OnBehalf history client second → i = j := by
  constructor
  · intro name budget history start group
    exact ⟨fun _ _ _ => Group.load_alone, fun _ _ _ _ _ => Group.fetch_alone,
      fun _ _ _ inquiries => inquiries.permits.1, fun _ _ _ _ => Group.load_justified⟩
  · intro pickers history start calls
    constructor
    · intro before occurrence after _ hop
      rcases (sets_undergo (start.undergoAll before).1 occurrence).hops with silent | ⟨client, -⟩
      · exact absurd silent hop
      · exact client
    · intro client first second i j foundFirst foundSecond behalf behalfSecond
      obtain rfl := behalf.eq_of_hop (List.mem_of_getElem? foundFirst)
      obtain rfl := behalfSecond.eq_of_hop (List.mem_of_getElem? foundSecond)
      have distinct : calls.Nodup :=
        (accounted_undergoAll pickers history).ascending.imp Nat.ne_of_lt
      exact (List.getElem?_inj (List.getElem?_eq_some_iff.mp foundFirst).1 distinct).mp
        (foundFirst.trans foundSecond.symm)

/-- Two nodes take each other for the owner of a key, and the node that is asked asks nobody. -/
theorem at_most_one_hop_disagreement :
    let choose : Group.Choice := fun _ => (some "b", [])
    let actions : List Group.Action := [.attach, .step choose (.get 0 "k"),
      .step choose (.fetched 0 ⟨5⟩ (.error ["down"]))]
    let pickers : List Peer.Picker := [.fixed ⟨[], some "b", ["b"]⟩, .fixed ⟨[], some "a", ["a"]⟩]
    let history : List Occurrence := [.move (.register 0 "g" 0), .move (.attach 0),
      .move (.register 1 "g" 0), .move (.attach 1), .move (.event (.get 0 "g" "k")), .reach 0 1]
    let calls := hops ((ofNodes pickers).undergoAll history).2
    (∀ other, Group.Outstanding (Group.empty "g" 0) actions (.load other "k") → other = 0) ∧
      calls = [0] ∧ (ofNodes pickers).OnBehalf history 0 1 ∧
      ∀ (i j : Nat), calls[i]? = some 0 → calls[j]? = some 0 → i = j := by
  intro choose actions pickers history calls
  obtain ⟨groups, clusters⟩ := at_most_one_hop
  obtain ⟨alone, -⟩ := groups "g" 0 actions
  obtain ⟨-, single⟩ := clusters pickers history
  have loading : Group.Outstanding (Group.empty "g" 0) actions (.load 0 "k") :=
    ((Group.asked?_run "g" 0 actions 0 _).mp (by decide)).2
  have answers : (ofNodes pickers).Answers history 1 0 :=
    ⟨history, [], 1, (List.append_nil _).symm, by decide⟩
  exact ⟨fun other again => alone "k" other 0 again loading, by decide, .answers .own answers,
    fun i j first second => single 0 0 0 i j first second .own .own⟩

end ReadThrough.Cluster
