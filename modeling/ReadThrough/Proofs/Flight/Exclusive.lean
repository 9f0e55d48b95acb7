import Mathlib.Data.List.Nodup
import ReadThrough.Proofs.Flight.Transition

/-!
# One computation for each key

The registry of a flight holds a key exactly as long as a call leads the
computation of this key, and it holds the ticket of this very call.  Hence two
computations of one key never run at a time, and a leader that ends takes
nothing but its own entry with it.
-/

namespace ReadThrough.Flight

variable {ρ : Type}

/-- The key and the ticket of the computation that a call leads. -/
def Call.computation? (call : Call ρ) : Option (String × Nat) :=
  match call.status with
  | .leading ticket => some (call.key, ticket)
  | _ => none

theorem Call.computation?_eq_some_iff {call : Call ρ} {key : String} {ticket : Nat} :
    call.computation? = some (key, ticket) ↔ call = ⟨key, .leading ticket⟩ := by
  obtain ⟨otherKey, status⟩ := call
  cases status <;> simp [Call.computation?]

/-- The computation of a call completes, or its caller gives up. -/
def Event.Ends (call : Nat) : Event ρ → Prop
  | .complete other _ => other = call
  | .drop other => other = call
  | _ => False

namespace Calls

/-! ## Leaders and waiters after an update -/

theorem leads_update_iff {state : Calls ρ} {call other : Nat} {key otherKey : String}
    {status : Status ρ} {ticket : Nat} (idle : ∀ ticket, status ≠ .leading ticket) :
    (state.update call key status).Leads other otherKey ticket ↔
      other ≠ call ∧ state.Leads other otherKey ticket := by
  rw [Leads, Leads, find?_update]
  by_cases same : other = call <;> simp [same, idle ticket]

theorem waits_update_iff {state : Calls ρ} {call other : Nat} {key otherKey : String}
    {status : Status ρ} {ticket : Nat} (idle : ∀ ticket, status ≠ .waiting ticket) :
    (state.update call key status).Waits other otherKey ticket ↔
      other ≠ call ∧ state.Waits other otherKey ticket := by
  rw [Waits, Waits, find?_update]
  by_cases same : other = call <;> simp [same, idle ticket]

theorem not_leading_of_owed {cancelled outcome : ρ} {status : Status ρ}
    (owed : status.owed? cancelled = some outcome) (ticket : Nat) : status ≠ .leading ticket := by
  rintro rfl
  cases owed

theorem not_waiting_of_owed {cancelled outcome : ρ} {status : Status ρ}
    (owed : status.owed? cancelled = some outcome) (ticket : Nat) : status ≠ .waiting ticket := by
  rintro rfl
  cases owed

/-! ## The invariant -/

/-- The registry and the outcomes fit the calls. -/
structure Consistent (state : Calls ρ) : Prop where
  ascending : Ordered.Ascending state.calls
  /-- A key is held with a ticket exactly if a call leads its computation with this ticket. -/
  registered : ∀ key ticket, state.flight.running.lookup key = some ticket ↔
    ∃ call, state.Leads call key ticket
  heldOnce : (state.flight.running.map Prod.fst).Nodup
  /-- No two calls lead with the same ticket. -/
  ownTicket : ∀ first second firstKey secondKey ticket, state.Leads first firstKey ticket →
    state.Leads second secondKey ticket → first = second
  issued : ∀ call key ticket, state.Leads call key ticket → ticket < state.flight.issued
  settledIssued : ∀ ticket outcome, state.flight.outcome? ticket = some outcome →
    ticket < state.flight.issued
  /-- The outcome of a running computation is not published. -/
  unsettled : ∀ call key ticket, state.Leads call key ticket → state.flight.outcome? ticket = none
  /-- A call waits for a running computation or for an outcome that is published. -/
  awaited : ∀ call key ticket, state.Waits call key ticket →
    (∃ leader, state.Leads leader key ticket) ∨ (state.flight.outcome? ticket).isSome

namespace Consistent

theorem empty : Consistent (Calls.empty : Calls ρ) where
  ascending := .nil
  registered := by simp [Calls.empty, Flight.empty, Leads, find?]
  heldOnce := List.nodup_nil
  ownTicket := by simp [Calls.empty, Leads, find?]
  issued := by simp [Calls.empty, Leads, find?]
  settledIssued := by simp [Calls.empty, Flight.empty, outcome?]
  unsettled := by simp [Calls.empty, Leads, find?]
  awaited := by simp [Calls.empty, Waits, find?]

variable {state : Calls ρ} (consistent : Consistent state)

include consistent

/-- A leader has a key for itself. -/
theorem leader_unique {first second : Nat} {key : String} {firstTicket secondTicket : Nat}
    (leadsFirst : state.Leads first key firstTicket)
    (leadsSecond : state.Leads second key secondTicket) : first = second := by
  have heldFirst := (consistent.registered key firstTicket).mpr ⟨first, leadsFirst⟩
  have heldSecond := (consistent.registered key secondTicket).mpr ⟨second, leadsSecond⟩
  obtain rfl : firstTicket = secondTicket := Option.some.inj (heldFirst.symm.trans heldSecond)
  exact consistent.ownTicket _ _ _ _ _ leadsFirst leadsSecond

/-- Neither a waiting call that ends nor a new one that waits concerns the leaders. -/
theorem update_idle {call : Nat} {key : String} {status : Status ρ}
    (idle : ∀ ticket, status ≠ .leading ticket)
    (notLeading : ∀ key ticket, ¬ state.Leads call key ticket)
    (joined : ∀ ticket, status = .waiting ticket →
      state.flight.running.lookup key = some ticket) :
    Consistent (state.update call key status) := by
  have leads_iff (other : Nat) (otherKey : String) (ticket : Nat) :
      (state.update call key status).Leads other otherKey ticket ↔
        state.Leads other otherKey ticket := by
    rw [leads_update_iff idle]
    refine ⟨And.right, fun leads => ⟨?_, leads⟩⟩
    rintro rfl
    exact notLeading _ _ leads
  refine ⟨consistent.ascending.put _ _, ?_, consistent.heldOnce, ?_, ?_,
    consistent.settledIssued, ?_, ?_⟩
  · simpa only [leads_iff, flight_update] using consistent.registered
  · simpa only [leads_iff] using consistent.ownTicket
  · simpa only [leads_iff, flight_update] using consistent.issued
  · simpa only [leads_iff, flight_update] using consistent.unsettled
  · intro other otherKey ticket waits
    simp only [leads_iff]
    rw [Waits, find?_update] at waits
    split at waits
    · obtain ⟨rfl, rfl⟩ : key = otherKey ∧ status = .waiting ticket := by simpa using waits
      exact Or.inl ((consistent.registered key ticket).mp (joined ticket rfl))
    · exact consistent.awaited other otherKey ticket waits

/-- A new leader has a free key and a ticket that nobody had. -/
theorem lead {call : Nat} {key : String} (new : state.find? call = none)
    (free : state.flight.running.lookup key = none) :
    Consistent ({ state with flight := state.flight.register key }.update call key
      (.leading state.flight.issued)) := by
  have leads_iff (other : Nat) (otherKey : String) (ticket : Nat) :
      ({ state with flight := state.flight.register key }.update call key
        (.leading state.flight.issued)).Leads other otherKey ticket ↔
        (other = call ∧ otherKey = key ∧ ticket = state.flight.issued) ∨
          state.Leads other otherKey ticket := by
    rw [Leads, Leads, find?_update]
    by_cases same : other = call
    · subst other
      simp [new, eq_comm]
    · simp [same]
  refine ⟨consistent.ascending.put _ _, ?_, ?_, ?_, ?_, ?_, ?_, ?_⟩
  · intro otherKey ticket
    simp only [leads_iff, flight_update, lookup_register]
    by_cases same : otherKey = key
    · subst otherKey
      have unled (other : Nat) : ¬ state.Leads other key ticket := by
        intro leads
        have held := (consistent.registered key ticket).mpr ⟨other, leads⟩
        rw [free] at held
        cases held
      simp [unled, eq_comm]
    · simpa [same] using consistent.registered otherKey ticket
  · have absent : key ∉ state.flight.running.map Prod.fst := by
      intro present
      obtain ⟨⟨_, ticket⟩, held, rfl⟩ := List.mem_map.mp present
      rw [List.lookup_eq_none_iff] at free
      simpa using free _ held
    exact List.nodup_cons.mpr ⟨absent, consistent.heldOnce⟩
  · intro first second firstKey secondKey ticket leadsFirst leadsSecond
    rw [leads_iff] at leadsFirst leadsSecond
    rcases leadsFirst with ⟨rfl, rfl, rfl⟩ | oldFirst
    · rcases leadsSecond with ⟨rfl, -, -⟩ | oldSecond
      · rfl
      · exact absurd (consistent.issued _ _ _ oldSecond) (Nat.lt_irrefl _)
    · rcases leadsSecond with ⟨rfl, rfl, rfl⟩ | oldSecond
      · exact absurd (consistent.issued _ _ _ oldFirst) (Nat.lt_irrefl _)
      · exact consistent.ownTicket _ _ _ _ _ oldFirst oldSecond
  · intro other otherKey ticket leads
    rcases (leads_iff _ _ _).mp leads with ⟨rfl, rfl, rfl⟩ | old
    · exact Nat.lt_succ_self _
    · exact Nat.lt_succ_of_lt (consistent.issued _ _ _ old)
  · intro ticket outcome published
    exact Nat.lt_succ_of_lt (consistent.settledIssued ticket outcome published)
  · intro other otherKey ticket leads
    rcases (leads_iff _ _ _).mp leads with ⟨rfl, rfl, rfl⟩ | old
    · refine Option.eq_none_iff_forall_not_mem.mpr fun outcome published => ?_
      exact absurd (consistent.settledIssued _ _ published) (Nat.lt_irrefl _)
    · exact consistent.unsettled _ _ _ old
  · intro other otherKey ticket waits
    have old : state.Waits other otherKey ticket := by
      rw [waits_update_iff (by simp)] at waits
      exact waits.2
    rcases consistent.awaited _ _ _ old with ⟨leader, leads⟩ | published
    · exact Or.inl ⟨leader, (leads_iff _ _ _).mpr (Or.inr leads)⟩
    · exact Or.inr published

/-- A leader that ends gives its key free and serves all that wait for it. -/
theorem conclude {cancelled outcome : ρ} {call : Nat} {key : String} {ticket : Nat}
    {status : Status ρ} (leads : state.Leads call key ticket)
    (owed : status.owed? cancelled = some outcome) :
    Consistent (state.conclude call key ticket outcome status) := by
  have leads_iff (other : Nat) (otherKey : String) (otherTicket : Nat) :
      (state.conclude call key ticket outcome status).Leads other otherKey otherTicket ↔
        other ≠ call ∧ state.Leads other otherKey otherTicket :=
    leads_update_iff (not_leading_of_owed owed)
  have otherTicket_ne {other : Nat} {otherKey : String} {otherTicket : Nat}
      (different : other ≠ call) (leadsOther : state.Leads other otherKey otherTicket) :
      otherTicket ≠ ticket := by
    rintro rfl
    exact different (consistent.ownTicket _ _ _ _ _ leadsOther leads)
  refine ⟨consistent.ascending.put _ _, ?_, ?_, ?_, ?_, ?_, ?_, ?_⟩
  · intro otherKey otherTicket
    simp only [leads_iff, flight_conclude, lookup_settle]
    by_cases same : otherKey = key
    · subst otherKey
      simp only [if_true, reduceCtorEq, false_iff, not_exists]
      rintro other ⟨different, leadsOther⟩
      exact different (consistent.leader_unique leadsOther leads)
    · rw [if_neg same, consistent.registered]
      refine exists_congr fun other => ⟨fun leadsOther => ⟨?_, leadsOther⟩, And.right⟩
      rintro rfl
      exact same (leadsOther.inj leads).1
  · exact (consistent.heldOnce.sublist (List.filter_sublist.map Prod.fst))
  · intro first second firstKey secondKey otherTicket leadsFirst leadsSecond
    exact consistent.ownTicket _ _ _ _ _ ((leads_iff _ _ _).mp leadsFirst).2
      ((leads_iff _ _ _).mp leadsSecond).2
  · intro other otherKey otherTicket leadsOther
    exact consistent.issued _ _ _ ((leads_iff _ _ _).mp leadsOther).2
  · intro otherTicket otherOutcome published
    simp only [flight_conclude, outcome?_settle] at published
    split at published
    · subst otherTicket
      exact consistent.issued _ _ _ leads
    · exact consistent.settledIssued _ _ published
  · intro other otherKey otherTicket leadsOther
    obtain ⟨different, old⟩ := (leads_iff _ _ _).mp leadsOther
    simp only [flight_conclude, outcome?_settle]
    rw [if_neg (otherTicket_ne different old)]
    exact consistent.unsettled _ _ _ old
  · intro other otherKey otherTicket waits
    have old : state.Waits other otherKey otherTicket :=
      ((waits_update_iff (not_waiting_of_owed owed)).mp waits).2
    simp only [leads_iff, flight_conclude, outcome?_settle]
    by_cases same : otherTicket = ticket
    · exact Or.inr (by simp [same])
    · rw [if_neg same]
      refine (consistent.awaited _ _ _ old).imp_left fun ⟨leader, leadsLeader⟩ =>
        ⟨leader, ?_, leadsLeader⟩
      rintro rfl
      exact same (leadsLeader.inj leads).2

theorem next {cancelled : ρ} {event : Event ρ} {next : Calls ρ} {effects : List (Effect ρ)}
    (transition : Transition cancelled state event next effects) : Consistent next := by
  cases transition with
  | ignore => exact consistent
  | lead new free => exact consistent.lead new free
  | join new found =>
      refine consistent.update_idle (by simp) ?_ ?_
      · intro key ticket leads
        rw [Leads, new] at leads
        cases leads
      · rintro ticket ⟨rfl⟩
        exact found
  | complete leads result => exact consistent.conclude leads (rfl : Status.owed? cancelled _ = _)
  | resume waits published => exact consistent.update_idle (by simp) waits.not_leads (by simp)
  | dropLeader leads => exact consistent.conclude leads (rfl : Status.owed? cancelled _ = _)
  | dropWaiter waits => exact consistent.update_idle (by simp) waits.not_leads (by simp)

end Consistent

/-- Every state that is reached is consistent. -/
theorem consistent_run (cancelled : ρ) (events : List (Event ρ)) :
    Consistent ((Calls.empty : Calls ρ).run cancelled events).1 :=
  run_induction cancelled
    (fun state event consistent => consistent.next (transition cancelled state event))
    .empty events

/-! ## The computations that are running -/

/-- The keys of the running computations with their tickets, in the order of the calls. -/
def computations (state : Calls ρ) : List (String × Nat) :=
  state.calls.filterMap fun entry => entry.2.computation?

theorem mem_computations {state : Calls ρ} (ascending : Ordered.Ascending state.calls)
    {key : String} {ticket : Nat} :
    (key, ticket) ∈ state.computations ↔ ∃ call, state.Leads call key ticket := by
  rw [computations, List.mem_filterMap]
  constructor
  · rintro ⟨⟨call, other⟩, present, leads⟩
    rw [Call.computation?_eq_some_iff] at leads
    exact ⟨call, ascending.mem_iff.mp (leads ▸ present)⟩
  · rintro ⟨call, leads⟩
    exact ⟨(call, ⟨key, .leading ticket⟩), ascending.mem_iff.mpr leads, rfl⟩

/-- The registry holds the running computations, each once, and nothing else. -/
theorem Consistent.running_perm {state : Calls ρ} (consistent : Consistent state) :
    state.flight.running.Perm state.computations := by
  have distinct : state.computations.Nodup := by
    refine List.pairwise_filterMap.mpr (consistent.ascending.imp_of_mem ?_)
    rintro ⟨first, firstCall⟩ ⟨second, secondCall⟩ presentFirst presentSecond below
    rintro ⟨key, ticket⟩ leadsFirst _ leadsSecond rfl
    rw [Call.computation?_eq_some_iff] at leadsFirst leadsSecond
    subst leadsFirst leadsSecond
    have same : first = second := consistent.ownTicket _ _ _ _ _
      (consistent.ascending.mem_iff.mp presentFirst)
      (consistent.ascending.mem_iff.mp presentSecond)
    exact absurd below (same ▸ Nat.lt_irrefl _)
  refine (List.perm_ext_iff_of_nodup consistent.heldOnce.of_map distinct).mpr ?_
  rintro ⟨key, ticket⟩
  rw [mem_computations consistent.ascending, Ordered.mem_iff_get? consistent.heldOnce,
    ← lookup_eq_get?, consistent.registered]

/-! ## Invocations -/

/-- Only a new call that finds its key free has its computation started. -/
theorem Transition.invoked {cancelled : ρ} {state next : Calls ρ} {event : Event ρ}
    {effects : List (Effect ρ)} (transition : Transition cancelled state event next effects)
    {call : Nat} (invoked : .invoke call ∈ effects) :
    state.find? call = none ∧ next.find? call ≠ none := by
  cases transition with
  | lead new free =>
      obtain rfl : call = _ := by simpa using invoked
      exact ⟨new, by simp [find?_update]⟩
  | _ => simp at invoked

theorem known_run {cancelled : ρ} {state : Calls ρ} {call : Nat} (events : List (Event ρ))
    (known : state.find? call ≠ none) : (state.run cancelled events).1.find? call ≠ none :=
  run_induction cancelled
    (fun state event (known : state.find? call ≠ none) =>
      (transition cancelled state event).known known) known events

theorem invoked_run {cancelled : ρ} {state : Calls ρ} {call : Nat} {events : List (Event ρ)}
    (invoked : .invoke call ∈ (state.run cancelled events).2) :
    state.find? call = none ∧ (state.run cancelled events).1.find? call ≠ none := by
  induction events generalizing state with
  | nil => cases invoked
  | cons event events ih =>
      rcases List.mem_append.mp invoked with now | later
      · obtain ⟨new, known⟩ := (transition cancelled state event).invoked now
        exact ⟨new, known_run events known⟩
      · obtain ⟨new, known⟩ := ih later
        refine ⟨?_, known⟩
        by_contra old
        exact (transition cancelled state event).known old new

/-- A call that leads had its computation started. -/
theorem Transition.led {cancelled : ρ} {state next : Calls ρ} {event : Event ρ}
    {effects : List (Effect ρ)} (transition : Transition cancelled state event next effects)
    {call : Nat} {key : String} {ticket : Nat} (leads : next.Leads call key ticket) :
    state.Leads call key ticket ∨ .invoke call ∈ effects := by
  cases transition with
  | ignore => exact Or.inl leads
  | lead new free =>
      rw [Leads, find?_update] at leads
      split at leads
      · subst call
        exact Or.inr List.mem_cons_self
      · exact Or.inl leads
  | complete _ result => exact Or.inl ((leads_update_iff (by simp)).mp leads).2
  | dropLeader => exact Or.inl ((leads_update_iff (by simp)).mp leads).2
  | _ => exact Or.inl ((leads_update_iff (by simp)).mp leads).2

theorem led_run {cancelled : ρ} {state : Calls ρ} {call : Nat} {key : String} {ticket : Nat}
    {events : List (Event ρ)} (leads : (state.run cancelled events).1.Leads call key ticket) :
    state.Leads call key ticket ∨ .invoke call ∈ (state.run cancelled events).2 := by
  induction events generalizing state with
  | nil => exact Or.inl leads
  | cons event events ih =>
      rcases ih leads with before | later
      · exact ((transition cancelled state event).led before).imp_right (List.mem_append_left _)
      · exact Or.inr (List.mem_append_right _ later)

/-! ## Main theorem -/

/-- A leader that ends leaves its outcome, whether it completes or is dropped. -/
theorem step_end (cancelled : ρ) {state : Calls ρ} {call : Nat} {key : String} {ticket : Nat}
    (leads : state.Leads call key ticket) {event : Event ρ} (ends : event.Ends call) :
    ∃ outcome status, Status.owed? cancelled status = some outcome ∧
      (state.step cancelled event).1 = state.conclude call key ticket outcome status := by
  cases event with
  | start | resume => cases ends
  | complete other result =>
      obtain rfl : other = call := ends
      exact ⟨result, .finished result, rfl, congrArg Prod.fst (step_complete _ leads result)⟩
  | drop other =>
      obtain rfl : other = call := ends
      exact ⟨cancelled, .dropped, rfl, congrArg Prod.fst (step_drop_leader _ leads)⟩

/-- A new call whose key is free becomes a leader, and its computation is started. -/
theorem leads_of_free (cancelled : ρ) {state : Calls ρ} {call : Nat} {key : String}
    (new : state.find? call = none) (free : state.flight.running.lookup key = none) :
    (state.step cancelled (.start call key)).1.Leads call key state.flight.issued ∧
      (state.step cancelled (.start call key)).2 = [.invoke call] := by
  rw [step_start_of_free cancelled new free]
  exact ⟨by rw [Leads, find?_update, if_pos rfl], rfl⟩

/-- A new call that finds its key held waits, and its own computation is never started. -/
theorem waits_of_running (cancelled : ρ) {events : List (Event ρ)} {call : Nat} {key : String}
    {ticket : Nat} (new : ((empty : Calls ρ).run cancelled events).1.find? call = none)
    (found : ((empty : Calls ρ).run cancelled events).1.flight.running.lookup key = some ticket)
    (later : List (Event ρ)) :
    (((empty : Calls ρ).run cancelled events).1.step cancelled (.start call key)).1.Waits
        call key ticket ∧
      .invoke call ∉ ((empty : Calls ρ).run cancelled (events ++ .start call key :: later)).2 := by
  have joined := step_start_of_running cancelled new found
  have waits : (((empty : Calls ρ).run cancelled events).1.step cancelled
      (.start call key)).1.Waits call key ticket := by
    rw [joined, Waits, find?_update, if_pos rfl]
  refine ⟨waits, ?_⟩
  rw [run_append, run, joined]
  intro invoked
  rcases List.mem_append.mp invoked with before | after
  · exact (invoked_run before).2 new
  · have made := (invoked_run after).1
    rw [find?_update, if_pos rfl] at made
    cases made

/--
At any time of any run the registry holds the keys of the running computations,
each with the ticket of the call that leads it.  A leader that ends frees its
own key only, and the next call for this key leads anew.  A call that finds its
key held never has its own computation started.
-/
theorem computations_exclusive (cancelled : ρ) (events : List (Event ρ)) :
    let reached := (empty : Calls ρ).run cancelled events
    let state := reached.1
    (state.computations.map Prod.fst).Nodup ∧
    state.flight.running.Perm state.computations ∧
    state.flight.inFlight = state.computations.length ∧
    (∀ call key ticket, state.Leads call key ticket →
      .invoke call ∈ reached.2 ∧
      state.flight.running.lookup key = some ticket ∧
      ∀ event : Event ρ, event.Ends call →
        let next := (state.step cancelled event).1
        (∀ other otherKey otherTicket, other ≠ call → state.Leads other otherKey otherTicket →
          next.flight.running.lookup otherKey = some otherTicket) ∧
        ∀ later, next.find? later = none →
          (next.step cancelled (.start later key)).1.Leads later key next.flight.issued ∧
          (next.step cancelled (.start later key)).2 = [.invoke later]) ∧
    (∀ call key, state.find? call = none → state.flight.running.lookup key = none →
      (state.step cancelled (.start call key)).1.Leads call key state.flight.issued ∧
      (state.step cancelled (.start call key)).2 = [.invoke call]) ∧
    (∀ call key ticket later, state.find? call = none →
      state.flight.running.lookup key = some ticket →
      (state.step cancelled (.start call key)).1.Waits call key ticket ∧
      .invoke call ∉ ((empty : Calls ρ).run cancelled (events ++ .start call key :: later)).2) := by
  intro reached state
  have consistent : Consistent state := consistent_run cancelled events
  have permuted := consistent.running_perm
  refine ⟨(permuted.map Prod.fst).nodup_iff.mp consistent.heldOnce, permuted,
    permuted.length_eq, ?_, fun _ _ => leads_of_free cancelled,
    fun _ _ _ later new found => waits_of_running cancelled new found later⟩
  intro call key ticket leads
  have invoked : .invoke call ∈ reached.2 :=
    (led_run leads).resolve_left (by simp [Leads, empty, find?])
  refine ⟨invoked, (consistent.registered _ _).mpr ⟨call, leads⟩, ?_⟩
  intro event ends next
  obtain ⟨outcome, status, owed, stepped⟩ := step_end cancelled leads ends
  have lookup_next (otherKey : String) : next.flight.running.lookup otherKey =
      if otherKey = key then none else state.flight.running.lookup otherKey := by
    rw [show next = _ from stepped, flight_conclude, lookup_settle]
  refine ⟨?_, fun later new => leads_of_free cancelled new (by rw [lookup_next, if_pos rfl])⟩
  intro other otherKey otherTicket different leadsOther
  have otherKey_ne : otherKey ≠ key := by
    rintro rfl
    exact different (consistent.leader_unique leadsOther leads)
  rw [lookup_next, if_neg otherKey_ne]
  exact (consistent.registered _ _).mpr ⟨other, leadsOther⟩

/-- Two keys and a call that joins: the first leader is dropped, and its key is led anew. -/
theorem computations_exclusive_drop :
    let state := ((empty : Calls Nat).run 7 [.start 0 "a", .start 1 "b"]).1
    let next := (state.step 7 (.drop 0)).1
    state.Leads 0 "a" 0 ∧ state.Leads 1 "b" 1 ∧ next.find? 2 = none ∧
      next.flight.running.lookup "b" = some 1 ∧
      (next.step 7 (.start 2 "a")).2 = [.invoke 2] ∧
      (state.step 7 (.start 2 "c")).2 = [.invoke 2] ∧
      .invoke 2 ∉ ((empty : Calls Nat).run 7 ([.start 0 "a", .start 1 "b"] ++
        .start 2 "a" :: [.complete 0 5, .resume 2])).2 := by
  obtain ⟨-, -, -, leaders, leads, joins⟩ :=
    computations_exclusive (7 : Nat) [.start 0 "a", .start 1 "b"]
  obtain ⟨-, -, ended⟩ := leaders 0 "a" 0 rfl
  obtain ⟨others, again⟩ := ended (.drop 0) rfl
  exact ⟨rfl, rfl, rfl, others 1 "b" 1 (by decide) rfl, (again 2 rfl).2,
    (leads 2 "c" rfl rfl).2, (joins 2 "a" 0 [.complete 0 5, .resume 2] rfl rfl).2⟩

end Calls

end ReadThrough.Flight
