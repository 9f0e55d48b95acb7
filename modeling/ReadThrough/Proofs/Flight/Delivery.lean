import ReadThrough.Proofs.Flight.Exclusive
import ReadThrough.Proofs.Flight.Withdrawal

/-!
# Delivery of outcomes

A call that joins is bound to the ticket of one leader.  While this leader
leads, the call waits; once the leader has ended, the call gets the outcome
that the leader left and no other one, however often the key is computed
again.  A call that gives up waiting takes nothing from anybody else.
-/

namespace ReadThrough.Flight.Calls

variable {ρ : Type}

/-- The outcome that a call has got, or gets as soon as it goes on. -/
def resolution? (state : Calls ρ) (call : Nat) : Option ρ :=
  match state.find? call with
  | some ⟨_, .waiting ticket⟩ => state.flight.outcome? ticket
  | some ⟨_, .finished result⟩ => some result
  | _ => none

theorem Waits.resolution? {state : Calls ρ} {call : Nat} {key : String} {ticket : Nat}
    (waits : state.Waits call key ticket) :
    state.resolution? call = state.flight.outcome? ticket := by
  rw [Waits] at waits
  rw [Calls.resolution?, waits]

/-! ## The bond between a call and the leader that it joined -/

/-- An outcome that is published stays. -/
theorem Transition.published {cancelled : ρ} {state next : Calls ρ} {event : Event ρ}
    {effects : List (Effect ρ)} (transition : Transition cancelled state event next effects)
    (consistent : Consistent state) {ticket : Nat} {outcome : ρ}
    (found : state.flight.outcome? ticket = some outcome) :
    next.flight.outcome? ticket = some outcome := by
  have different {call : Nat} {key : String} {other : Nat}
      (leads : state.Leads call key other) : ticket ≠ other := by
    rintro rfl
    cases found.symm.trans (consistent.unsettled _ _ _ leads)
  cases transition with
  | complete leads | dropLeader leads =>
      rw [flight_conclude, outcome?_settle, if_neg (different leads), found]
  | _ => exact found

theorem published_run {cancelled outcome : ρ} {state : Calls ρ} (consistent : Consistent state)
    {ticket : Nat} (found : state.flight.outcome? ticket = some outcome)
    (events : List (Event ρ)) :
    (state.run cancelled events).1.flight.outcome? ticket = some outcome := by
  induction events generalizing state with
  | nil => exact found
  | cons event events ih =>
      have stepped := transition cancelled state event
      exact ih (consistent.next stepped) (stepped.published consistent found)

/-- The ways in which a leader has ended since some events happened. -/
inductive Ended (cancelled : ρ) (events : List (Event ρ)) (leader : Nat) : Status ρ → ρ → Prop where
  | completed {result : ρ} (happened : .complete leader result ∈ events) :
      Ended cancelled events leader (.finished result) result
  | dropped (happened : .drop leader ∈ events) :
      Ended cancelled events leader .dropped cancelled

theorem Ended.owed {cancelled outcome : ρ} {events : List (Event ρ)} {leader : Nat}
    {status : Status ρ} (ended : Ended cancelled events leader status outcome) :
    status.owed? cancelled = some outcome := by
  cases ended <;> rfl

theorem Ended.mono {cancelled outcome : ρ} {events more : List (Event ρ)} {leader : Nat}
    {status : Status ρ} (ended : Ended cancelled events leader status outcome)
    (subset : events ⊆ more) : Ended cancelled more leader status outcome := by
  cases ended with
  | completed happened => exact .completed (subset happened)
  | dropped happened => exact .dropped (subset happened)

/-- A call and the leader that it joined, after the given events since then. -/
structure Bond (cancelled : ρ) (events : List (Event ρ)) (state : Calls ρ)
    (joiner leader : Nat) (key : String) (ticket : Nat) : Prop where
  leading : state.Leads leader key ticket ∨
    ∃ status outcome, Ended cancelled events leader status outcome ∧
      state.find? leader = some ⟨key, status⟩ ∧ state.flight.outcome? ticket = some outcome
  waiting : state.Waits joiner key ticket ∨ state.find? joiner = some ⟨key, .dropped⟩ ∨
    ∃ outcome, state.flight.outcome? ticket = some outcome ∧
      state.find? joiner = some ⟨key, .finished outcome⟩

namespace Bond

variable {cancelled : ρ} {events : List (Event ρ)} {state : Calls ρ} {joiner leader : Nat}
  {key : String} {ticket : Nat}

/-- A call that joins is bound to the leader of its key. -/
theorem join (leads : state.Leads leader key ticket) (new : state.find? joiner = none) :
    Bond cancelled [] (state.update joiner key (.waiting ticket)) joiner leader key ticket where
  leading := by
    refine Or.inl ((leads_update_iff (by simp)).mpr ⟨?_, leads⟩)
    rintro rfl
    cases leads.symm.trans new
  waiting := Or.inl (by rw [Waits, find?_update, if_pos rfl])

/-- No event loosens the bond. -/
theorem next (bond : Bond cancelled events state joiner leader key ticket)
    (consistent : Consistent state) {event : Event ρ} {next : Calls ρ}
    {effects : List (Effect ρ)} (transition : Transition cancelled state event next effects) :
    Bond cancelled (events ++ [event]) next joiner leader key ticket where
  leading := by
    rcases bond.leading with leads | ⟨status, outcome, ended, found, published⟩
    · rcases transition.leading leads with goesOn | ⟨result, rfl, found, published⟩ |
        ⟨rfl, found, published⟩
      · exact Or.inl goesOn
      · exact Or.inr ⟨_, _, .completed (by simp), found, published⟩
      · exact Or.inr ⟨_, _, .dropped (by simp), found, published⟩
    · exact Or.inr ⟨status, outcome, ended.mono (List.subset_append_left _ _),
        transition.ended found ended.owed, transition.published consistent published⟩
  waiting := by
    rcases bond.waiting with waits | dropped | ⟨outcome, published, found⟩
    · rcases transition.waiting waits with goesOn | dropped | ⟨outcome, published, found⟩
      · exact Or.inl goesOn
      · exact Or.inr (Or.inl dropped)
      · exact Or.inr (Or.inr ⟨outcome, transition.published consistent published, found⟩)
    · exact Or.inr (Or.inl (transition.ended dropped rfl))
    · exact Or.inr (Or.inr ⟨outcome, transition.published consistent published,
        transition.ended found rfl⟩)

/-- Whatever the bound call ends with was published for its ticket. -/
theorem finished (bond : Bond cancelled events state joiner leader key ticket)
    {event : Event ρ} {next : Calls ρ} {effects : List (Effect ρ)}
    (transition : Transition cancelled state event next effects) {result : ρ}
    (finish : .finish joiner result ∈ effects) :
    state.flight.outcome? ticket = some result := by
  rcases transition.finished finish with ⟨_, _, leads⟩ | ⟨_, _, again, published⟩
  · rcases bond.waiting with waits | dropped | ⟨_, _, found⟩
    · exact absurd leads (waits.not_leads _ _)
    · cases dropped.symm.trans leads
    · cases found.symm.trans leads
  · rcases bond.waiting with waits | dropped | ⟨_, _, found⟩
    · rw [(waits.inj again).2, published]
    · cases dropped.symm.trans again
    · cases found.symm.trans again

theorem run (bond : Bond cancelled events state joiner leader key ticket)
    (consistent : Consistent state) (later : List (Event ρ)) :
    Bond cancelled (events ++ later) (state.run cancelled later).1 joiner leader key ticket := by
  induction later generalizing events state with
  | nil => simpa using bond
  | cons event later ih =>
      have stepped := transition cancelled state event
      rw [List.append_cons]
      exact ih (bond.next consistent stepped) (consistent.next stepped)

theorem finished_run (bond : Bond cancelled events state joiner leader key ticket)
    (consistent : Consistent state) {later : List (Event ρ)} {result : ρ}
    (finish : .finish joiner result ∈ (state.run cancelled later).2) :
    (state.run cancelled later).1.flight.outcome? ticket = some result := by
  induction later generalizing events state with
  | nil => cases finish
  | cons event later ih =>
      have stepped := transition cancelled state event
      rcases List.mem_append.mp finish with now | afterwards
      · have published := stepped.published consistent (bond.finished stepped now)
        exact published_run (consistent.next stepped) published later
      · exact ih (bond.next consistent stepped) (consistent.next stepped) afterwards

/-- The bound call has the outcome of its ticket, unless it was dropped. -/
theorem resolution (bond : Bond cancelled events state joiner leader key ticket)
    (kept : state.find? joiner ≠ some ⟨key, .dropped⟩) :
    state.resolution? joiner = state.flight.outcome? ticket := by
  rcases bond.waiting with waits | dropped | ⟨outcome, published, found⟩
  · exact waits.resolution?
  · exact absurd dropped kept
  · rw [resolution?, found, published]

end Bond

/-! ## Main theorem -/

/-- A call that ended is known from then on. -/
theorem finished_known {cancelled result : ρ} {state : Calls ρ} {call : Nat}
    {events : List (Event ρ)} (finish : .finish call result ∈ (state.run cancelled events).2) :
    (state.run cancelled events).1.find? call ≠ none := by
  induction events generalizing state with
  | nil => cases finish
  | cons event events ih =>
      have stepped := transition cancelled state event
      rcases List.mem_append.mp finish with now | later
      · refine known_run events (stepped.known ?_)
        rcases stepped.finished now with ⟨_, _, leads⟩ | ⟨_, _, waits, -⟩
        · exact fun new => by cases leads.symm.trans new
        · exact fun new => by cases waits.symm.trans new
      · exact ih later

/-- What a call has got, or gets as soon as it goes on: nothing so far, or one outcome. -/
structure Delivered (reached : Calls ρ × List (Effect ρ)) (call : Nat) (key : String)
    (outcome : Option ρ) : Prop where
  resolved : reached.1.find? call ≠ some ⟨key, .dropped⟩ → reached.1.resolution? call = outcome
  finished : ∀ result, .finish call result ∈ reached.2 → outcome = some result

/-- A waiting call is woken when its leader ends, or it finds the outcome published. -/
theorem Consistent.served {state : Calls ρ} (consistent : Consistent state) (cancelled : ρ)
    {call : Nat} {key : String} {ticket : Nat} (waits : state.Waits call key ticket) :
    (∃ leader, state.Leads leader key ticket ∧ ∀ event : Event ρ, event.Ends leader →
      .wake call ∈ (state.step cancelled event).2) ∨
    ∃ outcome, state.resolution? call = some outcome ∧
      (state.step cancelled (.resume call)).2 = [.finish call outcome] := by
  rcases consistent.awaited _ _ _ waits with ⟨leader, leads⟩ | published
  · refine Or.inl ⟨leader, leads, fun event ends => ?_⟩
    have waiting : call ∈ state.waiters ticket :=
      List.mem_filterMap.mpr ⟨_, consistent.ascending.mem_iff.mpr waits, by simp⟩
    cases event with
    | start | resume => cases ends
    | complete other result =>
        obtain rfl : other = leader := ends
        rw [step_complete cancelled leads result]
        exact List.mem_cons_of_mem _ (List.mem_map_of_mem waiting)
    | drop other =>
        obtain rfl : other = leader := ends
        rw [step_drop_leader cancelled leads]
        exact List.mem_map_of_mem waiting
  · obtain ⟨outcome, published⟩ := Option.isSome_iff_exists.mp published
    exact Or.inr ⟨outcome, waits.resolution?.trans published,
      by rw [step_resume cancelled waits published]⟩

/--
A call that joins gets nothing while its leader leads, the result of the leader
once this has completed, and the outcome of cancelled calls once it is dropped.
Every call that waits has a leader or a published outcome.  A waiting call that
is dropped changes nothing for the others, whatever happens later.
-/
theorem joined_delivered (cancelled : ρ) (before after : List (Event ρ)) (joiner leader : Nat)
    (key : String) (ticket : Nat)
    (new : ((empty : Calls ρ).run cancelled before).1.find? joiner = none)
    (leads : ((empty : Calls ρ).run cancelled before).1.Leads leader key ticket) :
    let reached := (empty : Calls ρ).run cancelled (before ++ .start joiner key :: after)
    let state := reached.1
    ((state.Leads leader key ticket ∧ Delivered reached joiner key none) ∨
      ∃ status outcome, Ended cancelled after leader status outcome ∧
        state.find? leader = some ⟨key, status⟩ ∧
        Delivered reached joiner key (some outcome)) ∧
    (∀ call otherKey otherTicket, state.Waits call otherKey otherTicket →
      (∃ other, state.Leads other otherKey otherTicket ∧ ∀ event : Event ρ, event.Ends other →
        .wake call ∈ (state.step cancelled event).2) ∨
      ∃ outcome, state.resolution? call = some outcome ∧
        (state.step cancelled (.resume call)).2 = [.finish call outcome]) ∧
    (∀ call otherKey otherTicket later, state.Waits call otherKey otherTicket →
      let kept := state.run cancelled later
      let given := (state.step cancelled (.drop call)).1.run cancelled later
      (state.step cancelled (.drop call)).2 = [] ∧
      kept.1.flight = given.1.flight ∧
      (∀ other, other ≠ call → kept.1.find? other = given.1.find? other) ∧
      heardBut call kept.2 = heardBut call given.2) := by
  intro reached state
  have consistentBefore := consistent_run cancelled before
  have found := (consistentBefore.registered _ _).mpr ⟨leader, leads⟩
  have joined := step_start_of_running cancelled new found
  have consistentJoined := consistentBefore.next (transition cancelled _ (.start joiner key))
  rw [joined] at consistentJoined
  have joinedBond : Bond cancelled [] _ joiner leader key ticket := .join leads new
  have bond := joinedBond.run consistentJoined after
  have reached_eq : reached = _ := run_append cancelled empty before (.start joiner key :: after)
  rw [run_cons, joined, List.nil_append] at reached_eq
  have finishes (result : ρ) (finish : .finish joiner result ∈ reached.2) :
      state.flight.outcome? ticket = some result := by
    rw [reached_eq] at finish
    rcases List.mem_append.mp finish with early | late
    · exact absurd new (finished_known early)
    · rw [show state = _ from congrArg Prod.fst reached_eq]
      exact (Bond.join leads new).finished_run consistentJoined late
  have consistent : Consistent state := consistent_run cancelled _
  refine ⟨?_, fun call otherKey otherTicket => consistent.served cancelled, ?_⟩
  · rw [← congrArg Prod.fst reached_eq, List.nil_append] at bond
    rcases bond.leading with goesOn | ⟨status, outcome, ended, foundLeader, published⟩
    · have unpublished := consistent.unsettled _ _ _ goesOn
      exact Or.inl ⟨goesOn, fun kept => (bond.resolution kept).trans unpublished,
        fun result finish => unpublished.symm.trans (finishes result finish)⟩
    · exact Or.inr ⟨status, outcome, ended, foundLeader,
        fun kept => (bond.resolution kept).trans published,
        fun result finish => published.symm.trans (finishes result finish)⟩
  · intro call otherKey otherTicket later waits kept given
    have alike : AlikeBut call state (state.step cancelled (.drop call)).1 := by
      rw [step_drop_waiter cancelled waits]
      exact alikeBut_dropped consistent.ascending waits
    obtain ⟨final, heard⟩ := alike.run cancelled later
    exact ⟨congrArg Prod.snd (step_drop_waiter cancelled waits), final.flight, final.others, heard⟩

/-- The key is led again before the call that joined first goes on, and another call joins. -/
theorem joined_delivered_led_again :
    let before : List (Event Nat) := [.start 0 "a", .start 1 "b"]
    let after : List (Event Nat) :=
      [.complete 0 5, .start 3 "a", .start 4 "a", .resume 2, .complete 1 6]
    let reached := empty.run 7 (before ++ .start 2 "a" :: after)
    (empty.run 7 before).1.find? 2 = none ∧ (empty.run 7 before).1.Leads 0 "a" 0 ∧
      Delivered reached 2 "a" (some 5) ∧ reached.1.Waits 4 "a" 2 ∧
      (reached.1.step 7 (.drop 4)).2 = [] ∧
      ((∃ other, reached.1.Leads other "a" 2 ∧ ∀ event : Event Nat, event.Ends other →
        .wake 4 ∈ (reached.1.step 7 event).2) ∨
      ∃ outcome, reached.1.resolution? 4 = some outcome ∧
        (reached.1.step 7 (.resume 4)).2 = [.finish 4 outcome]) := by
  intro before after reached
  obtain ⟨delivered, served, dropped⟩ :=
    joined_delivered (7 : Nat) before after 2 0 "a" 0 rfl rfl
  refine ⟨rfl, rfl, ?_, rfl, (dropped 4 "a" 2 [] rfl).1, served 4 "a" 2 rfl⟩
  rcases delivered with ⟨leads, -⟩ | ⟨status, outcome, ended, found, delivered⟩
  · cases leads
  · cases ended with
    | completed happened =>
        cases found
        exact delivered
    | dropped happened => cases found

end ReadThrough.Flight.Calls
