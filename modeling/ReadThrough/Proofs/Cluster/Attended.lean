import ReadThrough.Proofs.Cluster.Occurrence

/-!
# Nobody waits in vain

Each call that has not ended is in its group, each fetch for which a call waits
is under way, and a call that answers a fetch never asks another node.  Whatever
happens to a cluster, this stays so; only the call that an event is about may be
out of order until the event is over.
-/

namespace ReadThrough.Cluster

/-- In a cluster, nobody waits in vain; one call may be exempted. -/
structure Attended (exempt : Option Nat) (cluster : Cluster) : Prop where
  groups : ∀ (member : Nat) (home : Member), cluster.members[member]? = some home →
    home.group.Attended
  alive : ∀ call info, exempt ≠ some call → Ordered.get? call cluster.calls = some info →
    ∃ home, cluster.members[info.member]? = some home ∧ home.group.caller? call ≠ none
  answering : ∀ (call member fetcher : Nat) (home : Member) (caller : Group.Caller),
    Ordered.get? call cluster.calls = some ⟨member, some fetcher⟩ →
    cluster.members[member]? = some home → home.group.caller? call = some caller →
      caller.stage.lookup? = none
  fetching : ∀ (member : Nat) (home : Member) (call : Nat) (key : String) (ticket : Nat)
    (address : String), exempt ≠ some call → cluster.members[member]? = some home →
    home.group.caller? call = some ⟨key, .fetching ticket address⟩ →
      Ordered.get? call cluster.transits ≠ none
  serving : ∀ call answering, Ordered.get? call cluster.transits = some (.serving answering) →
    answering < cluster.issued ∧
      ∀ info, Ordered.get? answering cluster.calls = some info → info.fetcher = some call

namespace Attended

variable {right : String → String → Outcome → Prop} {asked : Nat → String × String}
  {cluster : Cluster} {exempt : Option Nat} {call member : Nat} {home : Member}

/-! ## Parts of the cluster -/

theorem exempted (attended : cluster.Attended none) (call : Nat) :
    cluster.Attended (some call) where
  groups := attended.groups
  alive := fun other info _ => attended.alive other info nofun
  answering := attended.answering
  fetching := fun number another other key ticket address _ =>
    attended.fetching number another other key ticket address nofun
  serving := attended.serving

/-- The exempted call is in order, too. -/
theorem complete (attended : cluster.Attended (some call))
    (alive : ∀ info, Ordered.get? call cluster.calls = some info →
      ∃ home, cluster.members[info.member]? = some home ∧ home.group.caller? call ≠ none)
    (fetching : ∀ (member : Nat) (home : Member) (key : String) (ticket : Nat)
      (address : String), cluster.members[member]? = some home →
      home.group.caller? call = some ⟨key, .fetching ticket address⟩ →
        Ordered.get? call cluster.transits ≠ none) : cluster.Attended none where
  groups := attended.groups
  alive := by
    intro other info _ own
    by_cases same : call = other
    · subst same
      exact alive info own
    · exact attended.alive other info (by simpa using same) own
  answering := attended.answering
  fetching := by
    intro number another other key ticket address _ found waits
    by_cases same : call = other
    · subst same
      exact fetching number another key ticket address found waits
    · exact attended.fetching number another other key ticket address (by simpa using same) found
        waits
  serving := attended.serving

/-- A fetch may be on its way or answered. -/
theorem setTransit (attended : cluster.Attended exempt) (call : Nat) {transit : Transit}
    (unserved : ∀ answering, transit ≠ .serving answering) :
    (cluster.setTransit call transit).Attended exempt where
  groups := attended.groups
  alive := attended.alive
  answering := attended.answering
  fetching := by
    intro number another other key ticket address unexempt found waits
    rw [get?_setTransit]
    split
    · simp
    · exact attended.fetching number another other key ticket address unexempt found waits
  serving := by
    intro other answering fetch
    rw [get?_setTransit] at fetch
    split at fetch
    · cases fetch
      exact absurd rfl (unserved answering)
    · exact attended.serving other answering fetch

theorem answer (attended : cluster.Attended exempt) (call : Nat) (result : Except Causes Bytes) :
    (cluster.answer call result).1.Attended exempt :=
  attended.setTransit call nofun

theorem removeTransit (attended : cluster.Attended none) (call : Nat) :
    { cluster with transits := cluster.transits.filter fun entry => entry.1 ≠ call }.Attended
      (some call) where
  groups := attended.groups
  alive := fun other info _ => attended.alive other info nofun
  answering := attended.answering
  fetching := by
    intro number another other key ticket address unexempt found waits
    rw [Ordered.get?_filter_ne, if_neg]
    · exact attended.fetching number another other key ticket address nofun found waits
    · rintro rfl
      exact unexempt rfl
  serving := by
    intro other answering fetch
    rw [Ordered.get?_filter_ne] at fetch
    split at fetch
    · cases fetch
    · exact attended.serving other answering fetch

/-- A call that no group knows any longer may be forgotten. -/
theorem forget (attended : cluster.Attended (some call))
    (gone : ∀ (member : Nat) (home : Member), cluster.members[member]? = some home →
      home.group.caller? call = none) : (cluster.forget call).Attended none where
  groups := attended.groups
  alive := by
    intro other info _ own
    rw [get?_calls_forget] at own
    split at own
    · cases own
    · rename_i different
      exact attended.alive other info (by simpa using Ne.symm different) own
  answering := by
    intro other member fetcher home caller own
    rw [get?_calls_forget] at own
    split at own
    · cases own
    · exact attended.answering other member fetcher home caller own
  fetching := by
    intro number another other key ticket address _ found waits
    by_cases same : other = call
    · subst same
      cases (gone number another found).symm.trans waits
    · rw [get?_transits_forget, if_neg same]
      exact attended.fetching number another other key ticket address
        (by simpa using Ne.symm same) found waits
  serving := by
    intro other answering fetch
    rw [get?_transits_forget] at fetch
    split at fetch
    · cases fetch
    · obtain ⟨known, answers⟩ := attended.serving other answering fetch
      refine ⟨known, fun info own => answers info ?_⟩
      rw [get?_calls_forget] at own
      split at own
      · cases own
      · exact own

theorem conclude (attended : cluster.Attended (some call))
    (gone : ∀ (member : Nat) (home : Member), cluster.members[member]? = some home →
      home.group.caller? call = none) (outcome : Outcome) :
    (cluster.conclude call outcome).1.Attended none := by
  rw [Cluster.conclude]
  split
  · exact (attended.forget gone).answer _ _
  · exact attended.forget gone

/-- A new call, of which its group does not know yet, may answer a fetch. -/
theorem opened (attended : cluster.Attended none) (coherent : Coherent right asked cluster)
    (member : Nat) {fetcher : Option Nat} {transits : List (Nat × Transit)}
    (kept : ∀ call, Ordered.get? call cluster.transits ≠ none → Ordered.get? call transits ≠ none)
    (served : ∀ call answering, Ordered.get? call transits = some (.serving answering) →
      Ordered.get? call cluster.transits = some (.serving answering) ∨
        answering = cluster.issued ∧ fetcher = some call) :
    ({ cluster with transits }.opened member fetcher).Attended (some cluster.issued) where
  groups := attended.groups
  alive := by
    intro other info unexempt own
    rw [get?_calls_opened, if_neg] at own
    · exact attended.alive other info nofun own
    · rintro rfl
      exact unexempt rfl
  answering := by
    intro other number source another caller own found waits
    rw [get?_calls_opened] at own
    split at own
    · subst other
      obtain ⟨-, info, known⟩ := coherent.held number another _ caller found waits
      exact absurd (coherent.called _ _ known).1 (Nat.lt_irrefl _)
    · exact attended.answering other number source another caller own found waits
  fetching := fun number another other key ticket address _ found waits =>
    kept other (attended.fetching number another other key ticket address nofun found waits)
  serving := by
    intro other answering fetch
    rcases served other answering fetch with old | ⟨rfl, rfl⟩
    · obtain ⟨known, answers⟩ := attended.serving other answering old
      refine ⟨Nat.lt_succ_of_lt known, fun info own => answers info ?_⟩
      rw [get?_calls_opened, if_neg (Nat.ne_of_lt known)] at own
      exact own
    · refine ⟨Nat.lt_succ_self _, fun info own => ?_⟩
      rw [get?_calls_opened, if_pos rfl] at own
      cases own
      rfl

/-- A group may go on if only the exempted call changes and answers without asking anybody. -/
theorem replace (attended : cluster.Attended exempt) (found : cluster.members[member]? = some home)
    {next : Group} (kept : next.Attended)
    (frame : ∀ call, exempt ≠ some call → next.caller? call = home.group.caller? call)
    (answers : ∀ call fetcher caller, exempt = some call →
      Ordered.get? call cluster.calls = some ⟨member, some fetcher⟩ →
      next.caller? call = some caller → caller.stage.lookup? = none) :
    (cluster.withGroup member home next).Attended exempt where
  groups := by
    intro number another present
    rw [members_withGroup found] at present
    split at present
    · cases present
      exact kept
    · exact attended.groups number another present
  alive := by
    intro call info unexempt own
    obtain ⟨another, present, known⟩ := attended.alive call info unexempt own
    rw [members_withGroup found]
    split
    · rename_i same
      rw [same] at present
      cases found.symm.trans present
      exact ⟨_, rfl, (frame call unexempt).symm ▸ known⟩
    · exact ⟨another, present, known⟩
  answering := by
    intro call number fetcher another caller own present waits
    rw [members_withGroup found] at present
    split at present
    · subst number
      cases present
      by_cases exempted : exempt = some call
      · exact answers call fetcher caller exempted own waits
      · exact attended.answering call member fetcher home caller own found
          ((frame call exempted).symm.trans waits)
    · exact attended.answering call number fetcher another caller own present waits
  fetching := by
    intro number another call key ticket address unexempt present waits
    rw [members_withGroup found] at present
    split at present
    · cases present
      exact attended.fetching member home call key ticket address unexempt found
        ((frame call unexempt).symm.trans waits)
    · exact attended.fetching number another call key ticket address unexempt present waits
  serving := attended.serving

/-! ## Events in a group -/

section Group

variable {event : Group.Event} {fetcher : Option Nat}

/-- A group may go on with the exempted call. -/
theorem withGroup (attended : cluster.Attended (some event.call))
    (coherent : Coherent right asked cluster) (found : cluster.members[member]? = some home)
    (own : Ordered.get? event.call cluster.calls = some ⟨member, fetcher⟩)
    {choose : Group.Choice} {next : Group} {effects : List Group.Effect}
    (transition : Group.Transition choose home.group event next effects)
    (forPeer : fetcher ≠ none → ∀ request, event.Opens home.group request →
      request.forPeer = true) :
    (cluster.withGroup member home next).Attended (some event.call) := by
  obtain ⟨lookupKey, sourceKey, sound⟩ := coherent.sound member home found
  have kept : next.Attended :=
    transition.attended (sound.mono fun _ _ _ => True.intro) (attended.groups member home found)
  refine attended.replace found kept ?_ ?_
  · intro call unexempt
    exact transition.frame fun same => unexempt (congrArg some same.symm)
  · rintro _ source caller ⟨⟩ known waits
    cases own.symm.trans known
    rcases transition.origin waits with ⟨old, before, -, lookup⟩ | ⟨request, opens, -, -, alone⟩
    · rw [← lookup]
      exact attended.answering event.call member source home old known found before
    · exact alone (forPeer nofun request opens)

/-- An event of the exempted call, other than that it is dropped, puts it in order. -/
theorem stepMember (attended : cluster.Attended (some event.call))
    (coherent : Coherent right asked cluster) (found : cluster.members[member]? = some home)
    (own : Ordered.get? event.call cluster.calls = some ⟨member, fetcher⟩)
    (goesOn : event ≠ .drop event.call) (concerns : event.Concerns home.group)
    (forPeer : fetcher ≠ none → ∀ request, event.Opens home.group request →
      request.forPeer = true)
    (underWay : ∀ key ticket address,
      home.group.caller? event.call = some ⟨key, .fetching ticket address⟩ →
      event.closes (.fetch event.call address key) = false →
        Ordered.get? event.call cluster.transits ≠ none) :
    (cluster.stepMember member event).1.Attended none := by
  have transition := Group.transition (cluster.choiceOf home) home.group event
  have base := attended.withGroup coherent found own transition forPeer
  have reaction := reaction found event
  generalize same : Group.outwardOf (home.group.step (cluster.choiceOf home) event).2 = outward
    at reaction
  generalize (home.group.step (cluster.choiceOf home) event).1 = next at transition base reaction
  generalize (cluster.stepMember member event).1 = result at reaction ⊢
  have stored : (cluster.withGroup member home next).members[member]? =
      some { home with group := next } :=
    (members_withGroup found next member).trans (if_pos rfl)
  have alive (known : next.caller? event.call ≠ none) (info : Call)
      (again : Ordered.get? event.call cluster.calls = some info) :
      ∃ another, (cluster.withGroup member home next).members[info.member]? = some another ∧
        another.group.caller? event.call ≠ none := by
    cases own.symm.trans again
    exact ⟨_, stored, known⟩
  cases reaction with
  | quiet remains =>
      refine base.complete (alive (remains concerns goesOn)) ?_
      intro number another key ticket address present waits
      rw [members_withGroup found] at present
      split at present
      · cases present
        rcases transition.asked (Group.asked?_of_found waits) with now | ⟨before, unanswered⟩
        · cases Group.inward_of_outwardOf same now
        · obtain ⟨_, fetching⟩ := Group.fetching_of_asked before
          exact underWay key _ address fetching unanswered
      · rename_i different
        obtain ⟨-, _, again⟩ := coherent.held number another event.call _ present waits
        cases own.symm.trans again
        exact absurd rfl different
  | fetches fetching =>
      refine complete (base.setTransit event.call ?_) (alive (by simp [fetching])) ?_
      · rintro answering ⟨⟩
      · intro number another key ticket address _ _
        rw [get?_setTransit, if_pos rfl]
        exact Option.some_ne_none _
  | ends gone => exact base.conclude (gone_withGroup coherent found own gone) _

/-- An event of a call that was made before puts it in order. -/
theorem stepCall (event : Group.Event) (attended : cluster.Attended (some event.call))
    (coherent : Coherent right asked cluster) (goesOn : event ≠ .drop event.call)
    (unrequested : event.request? = none)
    (alive : ∀ info, Ordered.get? event.call cluster.calls = some info →
      ∃ home, cluster.members[info.member]? = some home ∧ home.group.caller? event.call ≠ none)
    (underWay : ∀ (member : Nat) (home : Member) (key : String) (ticket : Nat)
      (address : String), cluster.members[member]? = some home →
      home.group.caller? event.call = some ⟨key, .fetching ticket address⟩ →
      event.closes (.fetch event.call address key) = false →
        Ordered.get? event.call cluster.transits ≠ none) :
    (cluster.stepCall event.call event).1.Attended none := by
  rw [Cluster.stepCall]
  split
  · rename_i info own
    obtain ⟨home, found, known⟩ := alive info own
    refine attended.stepMember coherent found own goesOn (Or.inl known) ?_
      fun key ticket address => underWay info.member home key ticket address found
    intro _ request opens
    cases unrequested.symm.trans opens.made
  · rename_i absent
    refine attended.complete (fun info own => by cases absent.symm.trans own) ?_
    intro member home key ticket address found waits
    obtain ⟨-, fetcher, own⟩ := coherent.held member home event.call _ found waits
    cases absent.symm.trans own

/-- A call goes on, unless it is dropped. -/
theorem goOn (attended : cluster.Attended none) (coherent : Coherent right asked cluster)
    (event : Group.Event) (goesOn : event ≠ .drop event.call)
    (unrequested : event.request? = none) :
    (cluster.stepCall event.call event).1.Attended none := by
  refine stepCall event (attended.exempted event.call) coherent goesOn unrequested
    (fun info => attended.alive event.call info nofun) ?_
  intro member home key ticket address found waits _
  exact attended.fetching member home event.call key ticket address nofun found waits

/-- A new call is put in order by the event that makes it. -/
theorem begin (attended : cluster.Attended none) (coherent : Coherent right asked cluster)
    (found : cluster.members[member]? = some home) {transits : List (Nat × Transit)}
    (kept : ∀ call, Ordered.get? call cluster.transits ≠ none → Ordered.get? call transits ≠ none)
    (served : ∀ call answering, Ordered.get? call transits = some (.serving answering) →
      Ordered.get? call cluster.transits = some (.serving answering) ∨
        answering = cluster.issued ∧ fetcher = some call)
    {later : Nat → String × String}
    (opened : Coherent right later ({ cluster with transits }.opened member fetcher))
    {makes : Nat → Group.Event} {request : Group.Request}
    (numbered : (makes cluster.issued).call = cluster.issued)
    (asks : (makes cluster.issued).request? = some request)
    (forPeer : fetcher ≠ none → request.forPeer = true) :
    ({ cluster with transits }.begin member fetcher makes).1.Attended none := by
  have new : home.group.caller? cluster.issued = none := by
    cases waits : home.group.caller? cluster.issued with
    | none => rfl
    | some caller =>
        obtain ⟨-, info, known⟩ := coherent.held member home _ caller found waits
        exact absurd (coherent.called _ _ known).1 (Nat.lt_irrefl _)
  have opens : (makes cluster.issued).Opens home.group request :=
    ⟨asks, numbered.symm ▸ new⟩
  have pending : ({ cluster with transits }.opened member fetcher).Attended
      (some (makes cluster.issued).call) := by
    rw [numbered]
    exact attended.opened coherent member kept served
  have own : Ordered.get? (makes cluster.issued).call
      ({ cluster with transits }.opened member fetcher).calls = some ⟨member, fetcher⟩ := by
    rw [numbered, get?_calls_opened, if_pos rfl]
  refine pending.stepMember opened found own ?_ (Or.inr ⟨request, opens⟩) ?_ ?_
  · intro dropped
    rw [dropped] at asks
    cases asks
  · intro answers other opensOther
    cases asks.symm.trans opensOther.made
    exact forPeer answers
  · intro key ticket address waits
    cases (numbered.symm ▸ new).symm.trans waits

theorem abandon (attended : cluster.Attended none) (coherent : Coherent right asked cluster)
    (call : Nat) : (cluster.abandon call).1.Attended none := by
  obtain ⟨gone, -⟩ := stepCall_drop coherent call
  have pending : (cluster.stepCall call (.drop call)).1.Attended (some call) := by
    rw [Cluster.stepCall]
    split
    · rename_i info own
      obtain ⟨-, home, found, -⟩ := coherent.called call info own
      obtain ⟨-, woken, same⟩ := home.group.step_drop (cluster.choiceOf home) call
      rw [Cluster.stepMember, found]
      simp only [same, absorbAll_wakes]
      have exempted : cluster.Attended (some (Group.Event.drop call).call) :=
        attended.exempted call
      refine exempted.withGroup coherent found own
        (Group.transition (cluster.choiceOf home) home.group (.drop call)) ?_
      intro _ request opens
      cases opens.made
    · exact attended.exempted call
  exact pending.forget gone

end Group

/-! ## Events -/

theorem request (attended : cluster.Attended none) (coherent : Coherent right asked cluster)
    (node : Nat) (name key : String) {makes : Nat → Group.Event} {forPeer : Bool}
    (numbered : (makes cluster.issued).call = cluster.issued)
    (asks : (makes cluster.issued).request? = some ⟨key, forPeer⟩) :
    (cluster.request node name makes).1.Attended none := by
  rw [Cluster.request]
  split
  · rename_i member present
    obtain ⟨home, found, -⟩ := coherent.registered node name member present
    exact attended.begin coherent found (fun _ => id) (fun _ _ => Or.inl)
      (coherent.opened found key (by simp)) numbered asks (absurd rfl)
  · refine ⟨attended.groups, attended.alive, attended.answering, attended.fetching, ?_⟩
    intro other answering fetch
    obtain ⟨known, answers⟩ := attended.serving other answering fetch
    exact ⟨Nat.lt_succ_of_lt known, answers⟩

theorem deliver (attended : cluster.Attended none) (coherent : Coherent right asked cluster)
    {address name key : String}
    (fetch : Ordered.get? call cluster.transits = some (.travelling address name key))
    (node : Nat) : (cluster.deliver call node name key).1.Attended none := by
  obtain ⟨known, underWay, asks⟩ := coherent.fetched call _ fetch
  rw [Cluster.deliver]
  split
  · exact attended.answer call _
  · rename_i member present
    obtain ⟨home, found, rfl⟩ := coherent.registered node name member present
    have waiting : Coherent right asked (cluster.setTransit call (.serving cluster.issued)) :=
      coherent.setTransit known underWay
    have opened : Coherent right (assign asked cluster home.group.name key)
        ((cluster.setTransit call (.serving cluster.issued)).opened member (some call)) := by
      refine waiting.opened found key ?_
      rintro other ⟨⟩
      exact ⟨known, asks⟩
    refine attended.begin coherent found ?_ ?_ opened rfl rfl fun _ => rfl
    · intro other under
      rw [Ordered.get?_put]
      split
      · simp
      · exact under
    · intro other answering serving
      rw [Ordered.get?_put] at serving
      split at serving
      · subst other
        cases serving
        exact Or.inr ⟨rfl, rfl⟩
      · exact Or.inl serving

theorem step (attended : cluster.Attended none)
    (coherent : Coherent (fun _ _ _ => True) asked cluster) (event : Event) :
    (cluster.step event).1.Attended none := by
  cases event with
  | get node name key => exact attended.request coherent node name key rfl rfl
  | getForPeer node name key => exact attended.request coherent node name key rfl rfl
  | arrive call =>
      rw [Cluster.step]
      split
      · rename_i address name key fetch
        rcases serve_cases cluster call address name key with ⟨causes, same⟩ | ⟨node, -, same⟩
        · rw [same]
          exact attended.answer call _
        · rw [same]
          exact attended.deliver coherent fetch node
      · exact attended
  | respond call result =>
      rw [Cluster.step]
      split
      · exact attended.answer call result
      · exact attended
  | receive call elapsed =>
      rw [Cluster.step]
      split
      · rename_i result fetch
        refine stepCall (.fetched call elapsed result) (attended.removeTransit call)
          (coherent.removeTransit call) (by simp) rfl
          (fun info => attended.alive call info (by simp)) ?_
        intro member home key ticket address _ _ unanswered
        simp [Group.Event.closes, Group.Event.call] at unanswered
      · exact attended
  | loaded call result => exact attended.goOn coherent (.loaded call result) (by simp) rfl
  | resume call => exact attended.goOn coherent (.resume call) (by simp) rfl
  | drop call =>
      rw [Cluster.step]
      split
      · rename_i answering fetch
        have first := attended.abandon coherent answering
        have remaining := (handled_abandon coherent answering fun _ _ _ => True.intro).1.coherent
        exact first.abandon remaining call
      · exact attended.abandon coherent call

/-! ## Nodes and groups -/

/-- What does not concern the groups and their calls does not matter. -/
theorem of_groups (attended : cluster.Attended none) {next : Cluster}
    (members : next.members = cluster.members) (calls : next.calls = cluster.calls)
    (transits : next.transits = cluster.transits) (issued : next.issued = cluster.issued) :
    next.Attended none where
  groups := by
    rw [members]
    exact attended.groups
  alive := by
    rw [members, calls]
    exact attended.alive
  answering := by
    rw [members, calls]
    exact attended.answering
  fetching := by
    rw [members, transits]
    exact attended.fetching
  serving := by
    rw [calls, transits, issued]
    exact attended.serving

theorem ofNodes (pickers : List Peer.Picker) : (Cluster.ofNodes pickers).Attended none where
  groups := nofun
  alive := nofun
  answering := nofun
  fetching := nofun
  serving := nofun

theorem setPicker (attended : cluster.Attended none) (node : Nat) (picker : Peer.Picker) :
    (cluster.setPicker node picker).Attended none :=
  attended.of_groups rfl rfl rfl rfl

theorem applySettings (attended : cluster.Attended none) (node : Nat) (settings : Peer.Settings)
    (members : List String) : (cluster.applySettings node settings members).1.Attended none := by
  rw [Cluster.applySettings]
  split
  · exact attended.setPicker node _
  · exact attended

theorem setMembers (attended : cluster.Attended none) (node : Nat) (members : List String) :
    (cluster.setMembers node members).1.Attended none := by
  rw [Cluster.setMembers]
  split
  · exact attended.applySettings node _ members
  · exact attended

theorem register (attended : cluster.Attended none) (node : Nat) (name : String) (budget : Nat) :
    (cluster.register node (Group.empty name budget)).1.Attended none := by
  rw [Cluster.register]
  split
  · have oldOrNew {number : Nat} {home : Member}
        (found : (cluster.members ++ [⟨Group.empty name budget, node⟩])[number]? = some home) :
        cluster.members[number]? = some home ∨ home = ⟨Group.empty name budget, node⟩ := by
      rw [List.getElem?_append] at found
      split at found
      · exact Or.inl found
      · exact Or.inr (List.mem_singleton.mp (List.mem_of_getElem? found))
    refine ⟨?_, ?_, ?_, ?_, attended.serving⟩
    · intro number home found
      rcases oldOrNew found with stored | rfl
      · exact attended.groups number home stored
      · exact Group.attended_empty name budget
    · intro call info _ own
      obtain ⟨home, stored, known⟩ := attended.alive call info (by simp) own
      refine ⟨home, ?_, known⟩
      rw [List.getElem?_append_left (List.getElem?_eq_some_iff.mp stored).1, stored]
    · intro call number fetcher home caller own found waits
      rcases oldOrNew found with stored | rfl
      · exact attended.answering call number fetcher home caller own stored waits
      · cases waits
    · intro number home call key ticket address _ found waits
      rcases oldOrNew found with stored | rfl
      · exact attended.fetching number home call key ticket address (by simp) stored waits
      · cases waits
  · exact attended

theorem attach (attended : cluster.Attended none) {next : Cluster}
    (attached : cluster.attach member = .ok next) : next.Attended none := by
  rw [Cluster.attach] at attached
  split at attached
  · rename_i home found
    rw [Group.attach] at attached
    split at attached
    · cases attached
    · cases attached
      have kept := attended.groups member home found
      exact attended.replace found ⟨kept.lookups, kept.sourceRuns, kept.joined, kept.waiting⟩
        (fun _ _ => rfl) (by simp)
  · cases attached
    exact attended

theorem make (attended : cluster.Attended none)
    (coherent : Coherent (fun _ _ _ => True) asked cluster) (move : Move) :
    (cluster.make move).1.Attended none := by
  cases move with
  | event event => exact attended.step coherent event
  | breakOff call causes =>
      rw [Cluster.make, Cluster.breakOff]
      split
      · exact attended.answer call _
      · exact attended
  | applySettings node settings members => exact attended.applySettings node settings members
  | setMembers node members => exact attended.setMembers node members
  | goDown | goUp => exact attended.of_groups rfl rfl rfl rfl
  | register node name budget => exact attended.register node name budget
  | attach member =>
      rw [Cluster.make]
      split
      · rename_i next attached
        exact attended.attach attached
      · exact attended

theorem undergo (attended : cluster.Attended none)
    (coherent : Coherent (fun _ _ _ => True) asked cluster) (occurrence : Occurrence) :
    (cluster.undergo occurrence).1.Attended none := by
  cases occurrence with
  | move move => exact attended.make coherent move
  | reach call node =>
      rw [Cluster.undergo, Cluster.reach]
      split
      · rename_i address name key fetch
        exact attended.deliver coherent fetch node
      · exact attended

end Attended

/-- What holds of a cluster whatever has happened to it: nobody waits in vain, and it is coherent. -/
structure Reached (cluster : Cluster) : Prop where
  attended : cluster.Attended none
  coherent : ∃ asked, Coherent (fun _ _ _ => True) asked cluster

theorem Reached.undergo {cluster : Cluster} (reached : cluster.Reached) (occurrence : Occurrence) :
    (cluster.undergo occurrence).1.Reached := by
  obtain ⟨asked, coherent⟩ := reached.coherent
  obtain ⟨later, advance⟩ := advance_undergo coherent occurrence
  exact ⟨reached.attended.undergo coherent occurrence, later, advance.coherent⟩

theorem reached_undergoAll (pickers : List Peer.Picker) (history : List Occurrence) :
    ((ofNodes pickers).undergoAll history).1.Reached := by
  induction history using List.reverseRecOn with
  | nil => exact ⟨.ofNodes pickers, fun _ => ("", ""), coherent_ofNodes pickers⟩
  | append_singleton history occurrence ih =>
      rw [undergoAll_concat]
      exact ih.undergo occurrence

end ReadThrough.Cluster
