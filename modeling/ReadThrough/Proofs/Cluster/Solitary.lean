import ReadThrough.Proofs.Cluster.Attended
import ReadThrough.Proofs.Cluster.Timeline
import ReadThrough.Proofs.Group.Outlook

/-!
# Calls that nobody is in the way of

Where no call is pending, a new one neither joins a lookup nor waits for a run of
another call.  It has at most one fetch under way, or one run of a data source,
and each answer brings it closer to its end.  So a simulated call that is made in
an idle cluster ends with an outcome, and the cluster is idle again.
-/

namespace ReadThrough.Cluster

open Timeline (Activity)

/-! ## Pending calls -/

/-- The pending calls, and how far they may have come in their groups. -/
structure Roster (pending : List (Nat × Call)) (stages : List (Nat × Nat × Group.Caller))
    (cluster : Cluster) : Prop where
  calls : cluster.calls = pending
  ascending : ∀ (member : Nat) (home : Member), cluster.members[member]? = some home →
    Ordered.Ascending home.group.callers
  callers : ∀ (member : Nat) (home : Member) (call : Nat) (caller : Group.Caller),
    cluster.members[member]? = some home → home.group.caller? call = some caller →
      (member, call, caller) ∈ stages

section

variable {cluster : Cluster} {pending : List (Nat × Call)}
  {stages : List (Nat × Nat × Group.Caller)} {member : Nat} {home : Member}

/-- In an idle cluster, no group has a call. -/
theorem Reached.roster (reached : cluster.Reached) (idle : cluster.calls = []) :
    Roster [] [] cluster := by
  obtain ⟨asked, coherent⟩ := reached.coherent
  have nobody (member : Nat) (home : Member) (call : Nat) (caller : Group.Caller)
      (found : cluster.members[member]? = some home) :
      home.group.caller? call ≠ some caller := by
    intro waits
    obtain ⟨-, fetcher, own⟩ := coherent.held member home call caller found waits
    rw [idle] at own
    cases own
  refine ⟨idle, fun member home found => ?_, fun member home call caller found waits =>
    absurd waits (nobody member home call caller found)⟩
  have empty : home.group.callers = [] := by
    refine List.eq_nil_iff_forall_not_mem.mpr fun entry present => ?_
    obtain ⟨caller, waits⟩ := Ordered.mem_keys_iff.mp (List.mem_map_of_mem (f := Prod.fst) present)
    exact nobody member home entry.1 caller found waits
  rw [empty]
  exact .nil

/-- A pending call is in its group. -/
theorem Reached.found (reached : cluster.Reached) (roster : Roster pending stages cluster)
    {call : Nat} {info : Call} (own : Ordered.get? call pending = some info) :
    ∃ home caller, cluster.members[info.member]? = some home ∧
      home.group.caller? call = some caller ∧ (info.member, call, caller) ∈ stages := by
  rw [← roster.calls] at own
  obtain ⟨home, found, known⟩ := reached.attended.alive call info nofun own
  obtain ⟨caller, waits⟩ := Option.ne_none_iff_exists'.mp known
  exact ⟨home, caller, found, waits, roster.callers _ _ _ _ found waits⟩

theorem Reached.sourceRuns_eq_nil (reached : cluster.Reached)
    (roster : Roster pending stages cluster) (found : cluster.members[member]? = some home)
    (idle : ∀ call key lookup ticket, (member, call, ⟨key, .loading lookup ticket⟩) ∉ stages) :
    home.group.sourceRuns.running = [] := by
  refine (reached.attended.groups member home found).sourceRuns.running_eq_nil ?_
  rintro call key ticket ⟨stage, waits, runs⟩
  have listed := roster.callers member home call _ found waits
  cases stage with
  | loading lookup ticket => exact idle call key lookup ticket listed
  | joined | fetching | waiting => cases runs

theorem Reached.lookups_eq_nil (reached : cluster.Reached)
    (roster : Roster pending [] cluster) (found : cluster.members[member]? = some home) :
    home.group.lookups.running = [] := by
  refine (reached.attended.groups member home found).lookups.running_eq_nil ?_
  rintro call key ticket ⟨stage, waits, -⟩
  cases roster.callers member home call _ found waits

theorem Roster.unshared (roster : Roster pending stages cluster)
    (found : cluster.members[member]? = some home)
    (asking : ∀ entry ∈ stages, entry.2.2.asked? entry.2.1 ≠ none) : home.group.Unshared :=
  fun call caller waits => asking _ (roster.callers member home call caller found waits)

/-- A call that fetches waits for no other call. -/
theorem Roster.unshared_fetching {call : Nat} {key address : String} {ticket : Nat}
    (roster : Roster pending [(member, call, ⟨key, .fetching ticket address⟩)] cluster)
    {another : Nat} (found : cluster.members[another]? = some home) : home.group.Unshared :=
  roster.unshared found (by simp [Group.Caller.asked?])

theorem get?_only {call : Nat} {info : Call} : Ordered.get? call [(call, info)] = some info := by
  rw [Ordered.get?_cons, if_pos rfl]

theorem Roster.of_members (roster : Roster pending stages cluster) {next : Cluster}
    (members : next.members = cluster.members) : Roster next.calls stages next :=
  ⟨rfl, by rw [members]; exact roster.ascending, by rw [members]; exact roster.callers⟩

/-- The pending calls after one of them has gone on in its group. -/
theorem Roster.goOn (roster : Roster pending stages cluster)
    (found : cluster.members[member]? = some home) {group : Group}
    (ascending : Ordered.Ascending group.callers) {call : Nat}
    (frame : ∀ other, other ≠ call → group.caller? other = home.group.caller? other)
    {next : Cluster} (members : next.members = (cluster.withGroup member home group).members)
    {later : List (Nat × Nat × Group.Caller)}
    (own : ∀ caller, group.caller? call = some caller → (member, call, caller) ∈ later)
    (others : ∀ entry ∈ stages, entry ∈ later ∨ entry.1 = member ∧ entry.2.1 = call) :
    Roster next.calls later next where
  calls := rfl
  ascending := by
    intro number other present
    rw [members, members_withGroup found] at present
    split at present
    · cases present
      exact ascending
    · exact roster.ascending number other present
  callers := by
    intro number other another caller present waits
    rw [members, members_withGroup found] at present
    split at present
    · rename_i same
      cases present
      rw [same]
      by_cases goes : another = call
      · exact goes ▸ own caller (goes ▸ waits)
      · rw [frame another goes] at waits
        exact (others _ (roster.callers member home another caller found waits)).resolve_right
          fun gone => goes gone.2
    · rename_i different
      exact (others _ (roster.callers number other another caller present waits)).resolve_right
        fun gone => different gone.1

end

/-! ## What is due -/

/--
The activity that is due for the only call from outside, which fetches or runs a
data source, or for the one that answers its fetch; with a bound for what follows.
-/
inductive Due (call : Nat) (cluster : Cluster) : Activity → Nat → Prop where
  | load {member : Nat} {key : String} {lookup : Option Nat} {ticket : Nat}
      (roster : Roster [(call, ⟨member, none⟩)] [(member, call, ⟨key, .loading lookup ticket⟩)]
        cluster) : Due call cluster (.lookUp call member key) 1
  | receive {member : Nat} {key address : String} {ticket : Nat} {result : Except Causes Bytes}
      (roster : Roster [(call, ⟨member, none⟩)] [(member, call, ⟨key, .fetching ticket address⟩)]
        cluster) (answered : Ordered.get? call cluster.transits = some (.answered result))
      (elapsed : Span) : Due call cluster (.event (.receive call elapsed)) 2
  | serve {member other another : Nat} {key otherKey address : String} {lookup : Option Nat}
      {ticket otherTicket : Nat} (apart : other ≠ call)
      (roster : Roster [(call, ⟨member, none⟩), (other, ⟨another, some call⟩)]
        [(member, call, ⟨key, .fetching ticket address⟩),
          (another, other, ⟨otherKey, .loading lookup otherTicket⟩)] cluster) :
      Due call cluster (.lookUp other another otherKey) 3
  | respond {member : Nat} {key address site name asked : String} {ticket : Nat}
      (roster : Roster [(call, ⟨member, none⟩)] [(member, call, ⟨key, .fetching ticket address⟩)]
        cluster) (travels : Ordered.get? call cluster.transits = some (.travelling site name asked))
      (result : Except Causes Bytes) : Due call cluster (.event (.respond call result)) 4
  | arrive {member : Nat} {key address site name asked : String} {ticket : Nat}
      (roster : Roster [(call, ⟨member, none⟩)] [(member, call, ⟨key, .fetching ticket address⟩)]
        cluster) (travels : Ordered.get? call cluster.transits = some (.travelling site name asked)) :
      Due call cluster (.event (.arrive call)) 4

/-- Whatever an effect leads to is due, within a bound, or the call has ended with it. -/
def Promises (call : Nat) (cluster : Cluster) (bound : Nat) : Effect → Prop
  | .finish ended _ => ended = call ∧ cluster.calls = []
  | .load loader member key => ∃ rank < bound, Due call cluster (.lookUp loader member key) rank
  | .reply fetcher => fetcher = call ∧ ∃ rank < bound, ∀ elapsed,
      Due call cluster (.event (.receive fetcher elapsed)) rank
  | .fetch fetcher _ _ _ => fetcher = call ∧ ∃ rank < bound,
      Due call cluster (.event (.arrive fetcher)) rank ∧
        ∀ result, Due call cluster (.event (.respond fetcher result)) rank
  | .wake _ | .log _ => False

/-- Some reports are made, and one thing more happens, which leads to what is due. -/
def Continues (call bound : Nat) (result : Cluster × List Effect) : Prop :=
  ∃ (reports : List Log) (effect : Effect), result.2 = reports.map .log ++ [effect] ∧
    Promises call result.1 bound effect

theorem absorbAll_reports (member : Nat) (cluster : Cluster) (reports : List Log)
    (effect : Group.Effect) :
    absorbAll member cluster (reports.map .log ++ [effect]) =
      ((absorb member cluster effect).1,
        reports.map .log ++ (absorb member cluster effect).2) := by
  induction reports with
  | nil => simp [absorbAll]
  | cons report reports ih =>
      rw [List.map_cons, List.cons_append, absorbAll_cons]
      simp only [absorb, ih]
      rfl

section

variable {cluster : Cluster} {stages : List (Nat × Nat × Group.Caller)} {member call bound : Nat}
  {home : Member} {event : Group.Event}

/-- What an event brings about in its group is carried out in the cluster. -/
theorem stepMember_outlook (found : cluster.members[member]? = some home)
    (clear : home.group.Clear event) :
    ∃ group effects, event.Outlook group effects ∧ Ordered.Ascending group.callers ∧
      (∀ other, other ≠ event.call → group.caller? other = home.group.caller? other) ∧
        cluster.stepMember member event =
          absorbAll member (cluster.withGroup member home group) effects := by
  have transition := Group.transition (cluster.choiceOf home) home.group event
  exact ⟨_, _, transition.outlook clear, transition.ascending clear.ascending,
    fun other different => transition.frame different, stepMember_eq found event⟩

/-- The only call goes on, in whose way nobody is. -/
theorem continues_own (roster : Roster [(call, ⟨member, none⟩)] stages cluster)
    (only : ∀ entry ∈ stages, entry.1 = member ∧ entry.2.1 = call)
    (found : cluster.members[member]? = some home) (clear : home.group.Clear event)
    (own : event.call = call)
    (loads : (∀ result, event ≠ .loaded event.call result) → 1 < bound)
    (fetches : ∀ key, event.request? = some ⟨key, false⟩ → 4 < bound) :
    Continues call bound (cluster.stepMember member event) := by
  subst own
  obtain ⟨group, effects, outlook, ascending, frame, same⟩ := stepMember_outlook found clear
  have calls : (cluster.withGroup member home group).calls = [(event.call, ⟨member, none⟩)] :=
    roster.calls
  have stays {next : Cluster} (kept : next.calls = (cluster.withGroup member home group).calls)
      (members : next.members = (cluster.withGroup member home group).members)
      {caller : Group.Caller} (waits : group.caller? event.call = some caller) :
      Roster [(event.call, ⟨member, none⟩)] [(member, event.call, caller)] next := by
    rw [← calls, ← kept]
    refine roster.goOn found ascending frame members (fun another known => ?_)
      fun entry listed => Or.inr (only entry listed)
    cases waits.symm.trans known
    exact List.mem_singleton_self _
  rw [same]
  cases outlook with
  | ends reports outcome =>
      rw [absorbAll_reports, absorb, conclude, calls]
      refine ⟨reports, .finish event.call outcome, ?_, rfl, ?_⟩
      · simp [Ordered.get?_cons]
      · simp [Ordered.get?_cons, forget, calls]
  | loads reports waits begins =>
      rw [absorbAll_reports, absorb]
      exact ⟨reports, _, rfl, 1, loads begins, .load (stays rfl rfl waits)⟩
  | @fetches reports key address ticket waits asks =>
      rw [absorbAll_reports, absorb, members_withGroup found, if_pos rfl]
      let transit : Transit := .travelling address group.name key
      let next := (cluster.withGroup member home group).setTransit event.call transit
      have roster := stays (rfl : next.calls = _) (rfl : next.members = _) waits
      have travels : Ordered.get? event.call next.transits = some transit :=
        (get?_setTransit ..).trans (if_pos rfl)
      exact ⟨reports, _, rfl, rfl, 4, fetches key asks, .arrive roster travels,
        fun result => .respond roster travels result⟩

/-- The call that answers the fetch of the only one goes on, in whose way nobody is. -/
theorem continues_other {asker : Nat} {key address : String} {ticket : Nat}
    (roster : Roster [(call, ⟨asker, none⟩), (event.call, ⟨member, some call⟩)] stages cluster)
    (apart : event.call ≠ call)
    (only : ∀ entry ∈ stages, entry = (asker, call, ⟨key, .fetching ticket address⟩) ∨
      entry.1 = member ∧ entry.2.1 = event.call)
    (found : cluster.members[member]? = some home) (clear : home.group.Clear event)
    (answers : 2 < bound) (loads : (∀ result, event ≠ .loaded event.call result) → 3 < bound)
    (alone : ∀ key, event.request? ≠ some ⟨key, false⟩) :
    Continues call bound (cluster.stepMember member event) := by
  obtain ⟨group, effects, outlook, ascending, frame, same⟩ := stepMember_outlook found clear
  let fetching : Nat × Nat × Group.Caller := (asker, call, ⟨key, .fetching ticket address⟩)
  have calls : (cluster.withGroup member home group).calls =
      [(call, ⟨asker, none⟩), (event.call, ⟨member, some call⟩)] := roster.calls
  rw [same]
  cases outlook with
  | ends reports outcome gone =>
      rw [absorbAll_reports, absorb, conclude, calls]
      have own : Ordered.get? event.call
          [(call, (⟨asker, none⟩ : Call)), (event.call, ⟨member, some call⟩)] =
            some ⟨member, some call⟩ := by
        simp [Ordered.get?_cons, Ne.symm apart]
      rw [own]
      let next := (((cluster.withGroup member home group).forget event.call).answer call
        (present outcome)).1
      have remains : next.calls = [(call, ⟨asker, none⟩)] := by
        simp [next, answer, setTransit, forget, calls, Ne.symm apart]
      have rest : Roster [(call, ⟨asker, none⟩)] [fetching] next := by
        rw [← remains]
        refine roster.goOn found ascending frame (rfl : next.members = _)
          (fun caller known => ?_) fun entry listed => ?_
        · cases gone.symm.trans known
        · exact (only entry listed).imp_left List.mem_singleton.mpr
      have answered : Ordered.get? call next.transits = some (.answered (present outcome)) :=
        (get?_setTransit ..).trans (if_pos rfl)
      exact ⟨reports, .reply call, rfl, rfl, 2, answers, .receive rest answered⟩
  | @loads reports otherKey lookup otherTicket waits begins =>
      rw [absorbAll_reports, absorb]
      have both : Roster [(call, ⟨asker, none⟩), (event.call, ⟨member, some call⟩)]
          [fetching, (member, event.call, ⟨otherKey, .loading lookup otherTicket⟩)]
          (cluster.withGroup member home group) := by
        rw [← calls]
        refine roster.goOn found ascending frame rfl (fun caller known => ?_)
          fun entry listed => ?_
        · cases waits.symm.trans known
          simp
        · refine (only entry listed).imp_left fun same => ?_
          rw [same]
          exact List.mem_cons_self
      exact ⟨reports, _, rfl, 3, loads begins, .serve apart both⟩
  | fetches reports waits asks => exact absurd asks (alone _)

end

section

variable {cluster : Cluster} {call member : Nat} {key address : String} {ticket : Nat}

/-- The answer to a fetch comes back next. -/
theorem continues_answer
    (roster : Roster [(call, ⟨member, none⟩)] [(member, call, ⟨key, .fetching ticket address⟩)]
      cluster) (result : Except Causes Bytes) :
    Continues call 4 (cluster.answer call result) := by
  let next := cluster.setTransit call (.answered result)
  have kept := roster.of_members (rfl : next.members = _)
  rw [show next.calls = _ from roster.calls] at kept
  have answered : Ordered.get? call next.transits = some (.answered result) :=
    (get?_setTransit ..).trans (if_pos rfl)
  exact ⟨[], .reply call, rfl, rfl, 2, by decide, .receive kept answered⟩

/-- A new call goes on in its group, where it is not known yet. -/
theorem Reached.new (reached : cluster.Reached) {home : Member}
    (found : cluster.members[member]? = some home) :
    home.group.caller? cluster.issued = none := by
  obtain ⟨asked, coherent⟩ := reached.coherent
  refine Option.eq_none_iff_forall_ne_some.mpr fun caller waits => ?_
  obtain ⟨-, fetcher, own⟩ := coherent.held member home cluster.issued caller found waits
  exact Nat.lt_irrefl _ (coherent.called _ _ own).1

theorem Reached.registered (reached : cluster.Reached) {node : Nat} {name : String}
    (present : cluster.find? node name = some member) :
    ∃ home, cluster.members[member]? = some home := by
  obtain ⟨asked, coherent⟩ := reached.coherent
  obtain ⟨home, found, -⟩ := coherent.registered node name member present
  exact ⟨home, found⟩

/-- In an idle cluster, a call from outside goes on until it fetches or runs a data source. -/
theorem continues_request (reached : cluster.Reached) (idle : cluster.calls = []) (node : Nat)
    (name : String) {event : Nat → Group.Event} {request : Group.Request}
    (asks : (event cluster.issued).request? = some request)
    (own : (event cluster.issued).call = cluster.issued) :
    Continues cluster.issued 5 (cluster.request node name event) := by
  have roster := reached.roster idle
  rw [Cluster.request]
  split
  · rename_i member present
    obtain ⟨home, found⟩ := reached.registered present
    let next := cluster.opened member none
    have opened := roster.of_members (rfl : next.members = _)
    have calls : next.calls = [(cluster.issued, ⟨member, none⟩)] := by
      simp [next, Cluster.opened, idle, Ordered.put]
    rw [calls] at opened
    have clear : home.group.Clear (event cluster.issued) := by
      refine ⟨Or.inl ⟨request, asks, ?_⟩, ?_, roster.ascending member home found,
        roster.unshared found (List.forall_mem_nil _),
        fun _ _ => reached.lookups_eq_nil roster found,
        fun _ => reached.sourceRuns_eq_nil roster found (by simp)⟩
      · rw [own]
        exact reached.new found
      · intro dropped
        rw [dropped] at asks
        cases asks
    exact continues_own opened (List.forall_mem_nil _) found clear own (fun _ => by decide)
      fun _ _ => by decide
  · exact ⟨[], _, rfl, rfl, idle⟩

/-- A fetch that arrives is answered at once, or a call answers it that goes on. -/
theorem continues_deliver (reached : cluster.Reached)
    (roster : Roster [(call, ⟨member, none⟩)] [(member, call, ⟨key, .fetching ticket address⟩)]
      cluster) (node : Nat) (name asked : String) :
    Continues call 4 (cluster.deliver call node name asked) := by
  obtain ⟨_, coherent⟩ := reached.coherent
  rw [deliver]
  split
  · exact continues_answer roster _
  · rename_i another present
    obtain ⟨home, found⟩ := reached.registered present
    have own : Ordered.get? call cluster.calls = some ⟨member, none⟩ := by
      simp [roster.calls, Ordered.get?_cons]
    have earlier : call < cluster.issued := (coherent.called call _ own).1
    let next := (cluster.setTransit call (.serving cluster.issued)).opened another (some call)
    have opened := roster.of_members (rfl : next.members = _)
    have calls : next.calls =
        [(call, ⟨member, none⟩), (cluster.issued, ⟨another, some call⟩)] := by
      simp [next, Cluster.opened, setTransit, roster.calls, Ordered.put, Nat.not_lt_of_lt earlier,
        Nat.ne_of_gt earlier]
    rw [calls] at opened
    have clear : home.group.Clear (.getForPeer cluster.issued asked) :=
      Group.clear_getForPeer (reached.new found) (roster.ascending another home found)
        (roster.unshared_fetching found) (reached.sourceRuns_eq_nil roster found (by simp))
    exact continues_other opened (Nat.ne_of_gt earlier)
      (List.forall_mem_singleton.mpr (Or.inl rfl)) found clear (by decide) (fun _ => by decide)
      fun _ asks => by cases asks

/-- The run of a data source ends, and with it the only call. -/
theorem continues_load {lookup : Option Nat} (reached : cluster.Reached)
    (roster : Roster [(call, ⟨member, none⟩)] [(member, call, ⟨key, .loading lookup ticket⟩)]
      cluster) (result : Except Causes Bytes) :
    Continues call 1 (cluster.step (.loaded call result)) := by
  obtain ⟨home, caller, found, waits, listed⟩ := reached.found roster get?_only
  obtain rfl : caller = _ := by simpa using listed
  have asking : ∀ entry ∈ [(member, call, (⟨key, .loading lookup ticket⟩ : Group.Caller))],
      entry.2.2.asked? entry.2.1 ≠ none := by
    simp [Group.Caller.asked?]
  have clear : home.group.Clear (.loaded call result) :=
    Group.clear_loaded waits (roster.ascending member home found)
      (roster.unshared found asking) result
  rw [step, stepCall, roster.calls, get?_only]
  exact continues_own roster (List.forall_mem_singleton.mpr ⟨rfl, rfl⟩) found clear rfl
    (fun begins => absurd rfl (begins result)) fun _ asks => by cases asks

/-- The only call gets the answer to its fetch, and ends or runs a data source. -/
theorem continues_receive (reached : cluster.Reached)
    (roster : Roster [(call, ⟨member, none⟩)] [(member, call, ⟨key, .fetching ticket address⟩)]
      cluster) {result : Except Causes Bytes}
    (answered : Ordered.get? call cluster.transits = some (.answered result)) (elapsed : Span) :
    Continues call 2 (cluster.step (.receive call elapsed)) := by
  obtain ⟨home, caller, found, waits, listed⟩ := reached.found roster get?_only
  obtain rfl : caller = _ := by simpa using listed
  have clear : home.group.Clear (.fetched call elapsed result) :=
    Group.clear_fetched waits (roster.ascending member home found)
      (roster.unshared_fetching found) (reached.sourceRuns_eq_nil roster found (by simp))
      elapsed result
  let next : Cluster :=
    { cluster with transits := cluster.transits.filter fun entry => entry.1 ≠ call }
  have kept := roster.of_members (rfl : next.members = _)
  rw [show next.calls = _ from roster.calls] at kept
  have goesOn : cluster.step (.receive call elapsed) =
      next.stepMember member (.fetched call elapsed result) := by
    rw [step, answered]
    simp only [stepCall, roster.calls, get?_only, next]
  rw [goesOn]
  exact continues_own kept (List.forall_mem_singleton.mpr ⟨rfl, rfl⟩) found clear rfl
    (fun _ => by decide) fun _ asks => by cases asks

/-- The run of a data source ends, and with it the call that answers the fetch. -/
theorem continues_serve {other another : Nat} {otherKey : String} {lookup : Option Nat}
    {otherTicket : Nat} (reached : cluster.Reached) (apart : other ≠ call)
    (roster : Roster [(call, ⟨member, none⟩), (other, ⟨another, some call⟩)]
      [(member, call, ⟨key, .fetching ticket address⟩),
        (another, other, ⟨otherKey, .loading lookup otherTicket⟩)] cluster)
    (result : Except Causes Bytes) :
    Continues call 3 (cluster.step (.loaded other result)) := by
  have own : Ordered.get? other
      [(call, (⟨member, none⟩ : Call)), (other, ⟨another, some call⟩)] =
        some ⟨another, some call⟩ := by
    simp [Ordered.get?_cons, Ne.symm apart]
  obtain ⟨home, caller, found, waits, listed⟩ := reached.found roster own
  obtain rfl : caller = ⟨otherKey, .loading lookup otherTicket⟩ := by
    simpa [apart] using listed
  have unshared := roster.unshared found (by simp [Group.Caller.asked?])
  have clear : home.group.Clear (.loaded other result) :=
    Group.clear_loaded waits (roster.ascending another home found) unshared result
  rw [step, stepCall, roster.calls, own]
  exact continues_other roster apart
    (List.forall_mem_cons.mpr ⟨Or.inl rfl, List.forall_mem_singleton.mpr (Or.inr ⟨rfl, rfl⟩)⟩)
    found clear (by decide) (fun begins => absurd rfl (begins result)) fun _ asks => by cases asks

/-- What is due leads to something that is due earlier, or to the end of the call. -/
theorem Due.continues (reached : cluster.Reached) {activity : Activity} {rank : Nat}
    (due : Due call cluster activity rank) :
    match activity with
    | .lookUp loader _ _ => Ordered.get? loader cluster.calls ≠ none ∧
        ∀ result, Continues call rank (cluster.step (.loaded loader result))
    | .event event => Continues call rank (cluster.step event)
    | .start _ | .drop _ => False := by
  cases due with
  | load roster =>
      refine ⟨?_, continues_load reached roster⟩
      rw [roster.calls, get?_only]
      exact Option.some_ne_none _
  | receive roster answered elapsed => exact continues_receive reached roster answered elapsed
  | serve apart roster =>
      refine ⟨?_, continues_serve reached apart roster⟩
      simp [roster.calls, Ordered.get?_cons, Ne.symm apart]
  | respond roster travels result =>
      change Continues call 4 (cluster.step (.respond call result))
      rw [step, travels]
      exact continues_answer roster result
  | @arrive member key address site name asked ticket roster travels =>
      change Continues call 4 (cluster.step (.arrive call))
      rw [step, travels]
      change Continues call 4 (cluster.serve call site name asked)
      rcases serve_cases cluster call site name asked with ⟨causes, same⟩ | ⟨node, -, same⟩
      · rw [same]
        exact continues_answer roster _
      · rw [same]
        exact continues_deliver reached roster node name asked

end

/-! ## Simulated calls -/

namespace Timeline

variable {around : Surroundings} {turn : Turn Activity} {state : State} {call bound : Nat}

theorem noteAll_reports (reports : List Log) (effect : Effect) :
    noteAll around turn state (reports.map .log ++ [effect]) =
      note around turn { state with logs := state.logs ++ reports } effect := by
  induction reports generalizing state with
  | nil => simp [noteAll]
  | cons report reports ih =>
      rw [List.map_cons, List.cons_append, noteAll, note]
      simp only [ih, List.append_assoc, List.cons_append, List.nil_append]

theorem isSome_noteEnd (state : State) (index : Nat) (ended : TimedEnd) :
    (Ordered.get? index (state.noteEnd index ended).ends).isSome = true := by
  rw [State.noteEnd]
  split
  · assumption
  · simp [Ordered.get?_put]

/-- One consequence of a turn, which is performed in this or another one. -/
def Leads (due : Activity → Nat → Prop) (bound : Nat)
    (consequences : List (Consequence Activity)) : Prop :=
  ∃ consequence rank, consequences = [consequence] ∧
    consequence.Unlimited ∧ rank < bound ∧ due consequence.activity rank

theorem leads_after {due : Activity → Nat → Prop} {delay rank : Nat} {activity : Activity}
    (waits : due activity rank) (less : rank < bound) :
    Leads due bound [after turn delay activity] := by
  rw [after]
  split
  · exact ⟨_, rank, rfl, True.intro, less, waits⟩
  · exact ⟨_, rank, rfl, True.intro, less, waits⟩

/-- What is promised is planned, or the end of the call is noted. -/
theorem note_promised (planned : state.planned = [(call, 0)]) {effect : Effect}
    (promises : Promises call state.cluster bound effect) :
    ((note around turn state effect).2 = [] ∧ state.cluster.calls = [] ∧
        (Ordered.get? 0 (note around turn state effect).1.ends).isSome = true) ∨
      Leads (Due call state.cluster) bound (note around turn state effect).2 := by
  cases effect with
  | fetch fetcher address name key =>
      obtain ⟨rfl, rank, less, arrives, responds⟩ := promises
      rw [note]
      split
      · exact Or.inr (leads_after (responds _) less)
      · exact Or.inr (leads_after arrives less)
  | load loader member key =>
      obtain ⟨rank, less, loads⟩ := promises
      exact Or.inr (leads_after loads less)
  | reply fetcher =>
      obtain ⟨rfl, rank, less, receives⟩ := promises
      exact Or.inr ⟨_, rank, rfl, True.intro, less, receives _⟩
  | finish ended outcome =>
      obtain ⟨rfl, idle⟩ := promises
      have own : Ordered.get? ended state.planned = some 0 := by
        simp [planned, Ordered.get?_cons]
      rw [note, own]
      exact Or.inl ⟨rfl, idle, isSome_noteEnd ..⟩
  | wake | log => exact promises.elim

/-- The activity is due in a state that the cluster has reached by the only planned call. -/
structure Awaits (call : Nat) (state : State) (activity : Activity) (rank : Nat) : Prop where
  planned : state.planned = [(call, 0)]
  reached : state.cluster.Reached
  due : Due call state.cluster activity rank

/-- The only planned call has ended, and no other one is pending. -/
structure Settled (state : State) : Prop where
  reached : state.cluster.Reached
  idle : state.cluster.calls = []
  ended : (Ordered.get? 0 state.ends).isSome = true

/-- Nothing follows from what happens but the end of the call, or what is due earlier. -/
theorem happen_continues (planned : state.planned = [(call, 0)])
    (reached : state.cluster.Reached) {event : Event}
    (continues : Continues call bound (state.cluster.step event)) :
    ((happen around turn state event).2 = [] ∧ Settled (happen around turn state event).1) ∨
      Leads (Awaits call (happen around turn state event).1) bound
        (happen around turn state event).2 := by
  obtain ⟨reports, effect, same, promises⟩ := continues
  let next : State :=
    { state with cluster := (state.cluster.step event).1, logs := state.logs ++ reports }
  have happened : happen around turn state event = note around turn next effect := by
    rw [happen]
    simp only [same, noteAll_reports, next]
  have only : next.planned = [(call, 0)] := planned
  have noted := noted_note around turn only effect
  have later : (note around turn next effect).1.cluster.Reached := by
    rw [noted.cluster]
    exact reached.undergo (.move (.event event))
  rw [happened]
  rcases note_promised only promises with ⟨last, idle, ended⟩ | leads
  · refine Or.inl ⟨last, later, ?_, ended⟩
    rw [noted.cluster]
    exact idle
  · obtain ⟨consequence, rank, alone, unlimited, less, due⟩ := leads
    refine Or.inr ⟨consequence, rank, alone, unlimited, less, noted.planned.trans only, later, ?_⟩
    rw [noted.cluster]
    exact due

/-- What is due is performed, and leads to the end of the call or to what is due earlier. -/
theorem perform_awaited (plan : List TimedCall) {activity : Activity} {rank : Nat}
    (awaits : Awaits call state activity rank) :
    ((perform around plan turn activity state).2 = [] ∧
        Settled (perform around plan turn activity state).1) ∨
      Leads (Awaits call (perform around plan turn activity state).1) rank
        (perform around plan turn activity state).2 := by
  have continues := awaits.due.continues awaits.reached
  cases activity with
  | start | drop => exact continues.elim
  | event event => exact happen_continues awaits.planned awaits.reached continues
  | lookUp loader member key =>
      obtain ⟨pending, goesOn⟩ := continues
      let next : State := { state with lookedUp := state.lookedUp ++ [key] }
      have planned : next.planned = [(call, 0)] := awaits.planned
      have reached : next.cluster.Reached := awaits.reached
      rw [perform, if_pos (Option.isSome_iff_ne_none.mpr pending)]
      exact happen_continues planned reached (goesOn _)

/-- A call that is made in an idle cluster ends with what follows from it. -/
theorem settled_run (around : Surroundings) {cluster : Cluster} (reached : cluster.Reached)
    (idle : cluster.calls = []) (call : TimedCall) (now : call.start = 0)
    (kept : call.dropAt = none) : Settled (run around cluster [call]) := by
  have asks : Continues cluster.issued 5 (cluster.step (eventOf call)) := by
    rw [eventOf]
    split
    · exact continues_request reached idle call.node call.group rfl rfl
    · exact continues_request reached idle call.node call.group rfl rfl
  have planned : (opening cluster).planned = [(cluster.issued, 0)] := rfl
  have opens : (opening cluster).cluster.Reached := reached
  have nothing : Agenda.Plans [] [firstTurn] := ⟨rfl, List.forall_mem_singleton.mpr rfl⟩
  rw [run_singleton around cluster call now kept]
  rcases happen_continues planned opens asks with
    ⟨last, settled⟩ | ⟨consequence, rank, only, unlimited, less, awaits⟩
  · rw [last]
    change Settled (Agenda.run _ _ [firstTurn] _)
    rw [Agenda.run_of_plans_nil _ _ nothing]
    exact settled
  · rw [only]
    exact Agenda.run_reaches
      (fun turn activity state rank awaits => perform_awaited [call] awaits)
      (Nat.lt_of_lt_of_le less (by decide)) (Agenda.plans_follow nothing unlimited)
      awaits

end Timeline

/-- In an idle cluster, a simulated call ends with an outcome, and leaves the cluster idle. -/
theorem Simulation.call_ends {simulation : Simulation} (reached : simulation.cluster.Reached)
    (idle : simulation.cluster.calls = []) (node : Nat) (group key : String) (forPeer : Bool) :
    (∃ outcome time, (simulation.call node group key forPeer).2.1 = some ⟨some outcome, time⟩) ∧
      (simulation.call node group key forPeer).1.cluster.Reached ∧
      (simulation.call node group key forPeer).1.cluster.calls = [] := by
  let call : TimedCall := ⟨node, group, key, forPeer, 0, none⟩
  obtain ⟨later, empty, ended⟩ :=
    Timeline.settled_run simulation.around reached idle call rfl rfl
  obtain ⟨_, witnesses⟩ :=
    Timeline.witnesses_run simulation.around simulation.cluster call rfl rfl
  obtain ⟨⟨outcome?, time⟩, found⟩ := Option.isSome_iff_exists.mp ended
  obtain ⟨outcome, rfl, -⟩ := witnesses.ended _ found
  exact ⟨⟨outcome, time, found⟩, later, empty⟩

end ReadThrough.Cluster
