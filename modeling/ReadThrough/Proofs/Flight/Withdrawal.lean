import ReadThrough.Proofs.Flight.Transition

/-!
# Calls that give up waiting

Two states that differ only in how far one idle call has come stay so under
every event, and all other calls hear the same.  So a call that gives up
waiting changes nothing for anybody else, whatever happens later.
-/

namespace ReadThrough.Flight.Calls

variable {ρ : Type}

/-- A call that was made and leads nothing. -/
def Idle (state : Calls ρ) (call : Nat) : Prop :=
  ∃ key status, state.find? call = some ⟨key, status⟩ ∧ ∀ ticket, status ≠ .leading ticket

theorem idle_update_self (state : Calls ρ) (call : Nat) (key : String) {status : Status ρ}
    (idle : ∀ ticket, status ≠ .leading ticket) : (state.update call key status).Idle call :=
  ⟨key, status, by rw [find?_update, if_pos rfl], idle⟩

theorem Idle.update {state : Calls ρ} {call other : Nat} (idle : state.Idle call)
    (different : call ≠ other) (key : String) (status : Status ρ) :
    (state.update other key status).Idle call := by
  obtain ⟨ownKey, ownStatus, found, notLeading⟩ := idle
  exact ⟨ownKey, ownStatus, by rw [find?_update, if_neg different, found], notLeading⟩

theorem Idle.not_leads {state : Calls ρ} {call : Nat} (idle : state.Idle call) {key : String}
    {ticket : Nat} (leads : state.Leads call key ticket) : False := by
  obtain ⟨otherKey, status, found, notLeading⟩ := idle
  cases found.symm.trans leads
  exact notLeading ticket rfl

theorem Idle.known {state : Calls ρ} {call : Nat} (idle : state.Idle call)
    (new : state.find? call = none) : False := by
  obtain ⟨key, status, found, -⟩ := idle
  cases found.symm.trans new

/-- What the effects are to the calls but one. -/
def heardBut (apart : Nat) (effects : List (Effect ρ)) : List (Effect ρ) :=
  effects.filter fun effect => effect.call ≠ apart

@[simp]
theorem heardBut_nil (apart : Nat) : heardBut apart ([] : List (Effect ρ)) = [] := rfl

@[simp]
theorem heardBut_append (apart : Nat) (first second : List (Effect ρ)) :
    heardBut apart (first ++ second) = heardBut apart first ++ heardBut apart second :=
  List.filter_append ..

@[simp]
theorem heardBut_cons (apart : Nat) (effect : Effect ρ) (effects : List (Effect ρ)) :
    heardBut apart (effect :: effects) =
      if effect.call = apart then heardBut apart effects
      else effect :: heardBut apart effects := by
  by_cases own : effect.call = apart <;> simp [heardBut, own]

/-- Two states that differ only in how far one call has come, which leads nothing. -/
structure AlikeBut (apart : Nat) (first second : Calls ρ) : Prop where
  flight : first.flight = second.flight
  others : ∀ call, call ≠ apart → first.find? call = second.find? call
  ascendingFirst : Ordered.Ascending first.calls
  ascendingSecond : Ordered.Ascending second.calls
  idleFirst : first.Idle apart
  idleSecond : second.Idle apart

/-- An event of an idle call is its own affair. -/
theorem Idle.step {state : Calls ρ} (cancelled : ρ) {event : Event ρ}
    (idle : state.Idle event.call) (ascending : Ordered.Ascending state.calls) :
    (state.step cancelled event).1.flight = state.flight ∧
      (state.step cancelled event).1.Idle event.call ∧
      Ordered.Ascending (state.step cancelled event).1.calls ∧
      heardBut event.call (state.step cancelled event).2 = [] := by
  have stepped := transition cancelled state event
  generalize state.step cancelled event = reached at stepped
  obtain ⟨next, effects⟩ := reached
  cases stepped with
  | ignore => exact ⟨rfl, idle, ascending, rfl⟩
  | lead new | join new => exact (idle.known new).elim
  | complete leads | dropLeader leads => exact (idle.not_leads leads).elim
  | resume waits | dropWaiter waits =>
      exact ⟨rfl, idle_update_self _ _ _ (by simp), ascending.put _ _,
        by simp [Event.call, Effect.call]⟩

namespace AlikeBut

variable {apart : Nat} {first second : Calls ρ} (alike : AlikeBut apart first second)

include alike

theorem withFlight (flight : Flight ρ) :
    AlikeBut apart { first with flight } { second with flight } :=
  { alike with flight := rfl }

theorem update {call : Nat} (different : call ≠ apart) (key : String) (status : Status ρ) :
    AlikeBut apart (first.update call key status) (second.update call key status) where
  flight := alike.flight
  others other distinct := by
    rw [find?_update, find?_update, alike.others other distinct]
  ascendingFirst := alike.ascendingFirst.put _ _
  ascendingSecond := alike.ascendingSecond.put _ _
  idleFirst := alike.idleFirst.update (Ne.symm different) key status
  idleSecond := alike.idleSecond.update (Ne.symm different) key status

theorem conclude {call : Nat} (different : call ≠ apart) (key : String) (ticket : Nat)
    (outcome : ρ) (status : Status ρ) :
    AlikeBut apart (first.conclude call key ticket outcome status)
      (second.conclude call key ticket outcome status) := by
  have settled := alike.withFlight (first.flight.settle key ticket outcome)
  rw [Calls.conclude, Calls.conclude, settle, settle, ← alike.flight]
  exact settled.update different key status

/-- Up to the call that is set apart, the same calls wait. -/
theorem waiters (ticket : Nat) :
    (first.waiters ticket).filter (· ≠ apart) = (second.waiters ticket).filter (· ≠ apart) := by
  have same : first.calls.filter (fun entry => entry.1 ≠ apart) =
      second.calls.filter fun entry => entry.1 ≠ apart := by
    refine (alike.ascendingFirst.filter _).ext (alike.ascendingSecond.filter _) fun call => ?_
    rw [Ordered.get?_filter_ne, Ordered.get?_filter_ne]
    split
    · rfl
    · exact alike.others call ‹_›
  have restricted (state : Calls ρ) : (state.waiters ticket).filter (· ≠ apart) =
      { state with calls := state.calls.filter fun entry => entry.1 ≠ apart }.waiters ticket := by
    rw [Calls.waiters, Calls.waiters, List.filter_filterMap, List.filterMap_filter]
    congr 1
    funext entry
    obtain ⟨call, key, status⟩ := entry
    cases status with
    | waiting other =>
        by_cases own : call = apart <;> by_cases same : other = ticket <;> simp [own, same]
    | _ => simp
  rw [restricted, restricted, same, alike.flight]

/-- Up to the call that is set apart, the same calls are woken. -/
theorem wakes (ticket : Nat) :
    heardBut apart ((first.waiters ticket).map fun call => (.wake call : Effect ρ)) =
      heardBut apart ((second.waiters ticket).map fun call => (.wake call : Effect ρ)) := by
  rw [heardBut, heardBut, List.filter_map, List.filter_map]
  exact congrArg _ (alike.waiters ticket)

/-- An event of another call does the same in both states. -/
theorem step_other (cancelled : ρ) {event : Event ρ} (different : event.call ≠ apart) :
    AlikeBut apart (first.step cancelled event).1 (second.step cancelled event).1 ∧
      heardBut apart (first.step cancelled event).2 =
        heardBut apart (second.step cancelled event).2 := by
  cases event with
  | start call key =>
      have same : first.find? call = second.find? call := alike.others call different
      cases new : first.find? call with
      | some other =>
          rw [new] at same
          simpa [step, new, ← same] using alike
      | none =>
          have newSecond := same.symm.trans new
          cases found : first.flight.running.lookup key with
          | none =>
              have foundSecond := alike.flight ▸ found
              rw [step_start_of_free cancelled new found,
                step_start_of_free cancelled newSecond foundSecond, ← alike.flight]
              exact ⟨(alike.withFlight _).update different key _, rfl⟩
          | some ticket =>
              have foundSecond := alike.flight ▸ found
              rw [step_start_of_running cancelled new found,
                step_start_of_running cancelled newSecond foundSecond]
              exact ⟨alike.update different key _, rfl⟩
  | complete call result =>
      have same : first.find? call = second.find? call := alike.others call different
      rcases found : first.find? call with _ | ⟨key, _ | _ | _ | _⟩
      case some.leading ticket =>
        rw [step_complete cancelled found, step_complete cancelled (same.symm.trans found)]
        refine ⟨alike.conclude different key ticket result _, ?_⟩
        rw [heardBut_cons, heardBut_cons, alike.wakes]
      all_goals
        rw [found] at same
        simpa [step, found, ← same] using alike
  | resume call =>
      have same : first.find? call = second.find? call := alike.others call different
      rcases found : first.find? call with _ | ⟨key, _ | _ | _ | _⟩
      case some.waiting ticket =>
        have foundSecond := same.symm.trans found
        cases published : first.flight.outcome? ticket with
        | none => simpa [step, found, foundSecond, published, ← alike.flight] using alike
        | some outcome =>
            rw [step_resume cancelled found published,
              step_resume cancelled foundSecond (alike.flight ▸ published)]
            exact ⟨alike.update different key _, rfl⟩
      all_goals
        rw [found] at same
        simpa [step, found, ← same] using alike
  | drop call =>
      have same : first.find? call = second.find? call := alike.others call different
      rcases found : first.find? call with _ | ⟨key, _ | _ | _ | _⟩
      case some.leading ticket =>
        rw [step_drop_leader cancelled found, step_drop_leader cancelled (same.symm.trans found)]
        exact ⟨alike.conclude different key ticket cancelled _, alike.wakes ticket⟩
      case some.waiting ticket =>
        rw [step_drop_waiter cancelled found, step_drop_waiter cancelled (same.symm.trans found)]
        exact ⟨alike.update different key _, rfl⟩
      all_goals
        rw [found] at same
        simpa [step, found, ← same] using alike

/-- An event of the call that is set apart is heard by nobody else. -/
theorem step_apart (cancelled : ρ) {event : Event ρ} (own : event.call = apart) :
    AlikeBut apart (first.step cancelled event).1 (second.step cancelled event).1 ∧
      heardBut apart (first.step cancelled event).2 =
        heardBut apart (second.step cancelled event).2 := by
  subst own
  obtain ⟨flightFirst, idleFirst, ascendingFirst, unheardFirst⟩ :=
    alike.idleFirst.step cancelled alike.ascendingFirst
  obtain ⟨flightSecond, idleSecond, ascendingSecond, unheardSecond⟩ :=
    alike.idleSecond.step cancelled alike.ascendingSecond
  refine ⟨⟨?_, ?_, ascendingFirst, ascendingSecond, idleFirst, idleSecond⟩, ?_⟩
  · rw [flightFirst, flightSecond, alike.flight]
  · intro call different
    rw [(transition cancelled first event).frame different,
      (transition cancelled second event).frame different, alike.others call different]
  · rw [unheardFirst, unheardSecond]

theorem run (cancelled : ρ) (events : List (Event ρ)) :
    AlikeBut apart (first.run cancelled events).1 (second.run cancelled events).1 ∧
      heardBut apart (first.run cancelled events).2 =
        heardBut apart (second.run cancelled events).2 := by
  induction events generalizing first second with
  | nil => exact ⟨alike, rfl⟩
  | cons event events ih =>
      have stepped : AlikeBut apart (first.step cancelled event).1
          (second.step cancelled event).1 ∧ heardBut apart (first.step cancelled event).2 =
            heardBut apart (second.step cancelled event).2 := by
        by_cases own : event.call = apart
        · exact alike.step_apart cancelled own
        · exact alike.step_other cancelled own
      obtain ⟨final, later⟩ := ih stepped.1
      refine ⟨final, ?_⟩
      rw [run_cons, run_cons, heardBut_append, heardBut_append, stepped.2, later]

end AlikeBut

/-- A call that gives up waiting leaves everything else as it is. -/
theorem alikeBut_dropped {state : Calls ρ} (ascending : Ordered.Ascending state.calls)
    {call : Nat} {key : String} {ticket : Nat} (waits : state.Waits call key ticket) :
    AlikeBut call state (state.update call key .dropped) where
  flight := rfl
  others other different := by rw [find?_update, if_neg different]
  ascendingFirst := ascending
  ascendingSecond := ascending.put _ _
  idleFirst := ⟨key, .waiting ticket, waits, by simp⟩
  idleSecond := idle_update_self _ _ _ (by simp)

end ReadThrough.Flight.Calls
