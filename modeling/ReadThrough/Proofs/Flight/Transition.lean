import ReadThrough.Flight.Calls
import ReadThrough.Proofs.Ordered

/-!
# What an event does to the calls of a flight

Every event is one of six transitions.  The arguments about whole runs go
through these and never open the step itself.
-/

namespace ReadThrough.Flight

variable {ρ : Type}

/-! ## The registry of the running computations -/

theorem lookup_eq_get? {κ α : Type} [DecidableEq κ] (key : κ) (map : List (κ × α)) :
    map.lookup key = Ordered.get? key map := by
  induction map with
  | nil => rfl
  | cons entry rest ih =>
      obtain ⟨first, value⟩ := entry
      rw [List.lookup_cons, Ordered.get?_cons, ih]
      by_cases same : first = key
      · simp [same]
      · rw [beq_eq_false_iff_ne.mpr (Ne.symm same), if_neg same]

/-- Settling a computation frees its key and no other one. -/
theorem lookup_settle (flight : Flight ρ) (key other : String) (ticket : Nat) (outcome : ρ) :
    (flight.settle key ticket outcome).running.lookup other =
      if other = key then none else flight.running.lookup other := by
  rw [lookup_eq_get?, lookup_eq_get?]
  exact Ordered.get?_filter_ne key other flight.running

/-- Settling a computation publishes its outcome and no other one. -/
theorem outcome?_settle (flight : Flight ρ) (key : String) (ticket other : Nat) (outcome : ρ) :
    (flight.settle key ticket outcome).outcome? other =
      if other = ticket then some outcome else flight.outcome? other := by
  rw [outcome?, outcome?, lookup_eq_get?, lookup_eq_get?, settle, Ordered.get?_cons]
  simp [eq_comm]

def register (flight : Flight ρ) (key : String) : Flight ρ :=
  { flight with
    running := (key, flight.issued) :: flight.running
    issued := flight.issued + 1 }

theorem enter_of_free {flight : Flight ρ} {key : String}
    (free : flight.running.lookup key = none) :
    flight.enter key = (.lead flight.issued, flight.register key) := by
  rw [enter, free]
  rfl

theorem enter_of_running {flight : Flight ρ} {key : String} {ticket : Nat}
    (found : flight.running.lookup key = some ticket) :
    flight.enter key = (.join ticket, flight) := by
  rw [enter, found]

theorem lookup_register (flight : Flight ρ) (key other : String) :
    (flight.register key).running.lookup other =
      if other = key then some flight.issued else flight.running.lookup other := by
  rw [lookup_eq_get?, lookup_eq_get?, register, Ordered.get?_cons]
  simp [eq_comm]

def Event.call : Event ρ → Nat
  | .start call _ => call
  | .complete call _ => call
  | .resume call => call
  | .drop call => call

def Effect.call : Effect ρ → Nat
  | .invoke call => call
  | .wake call => call
  | .finish call _ => call

/-- What the calls that joined a leader are owed, once the leader has ended. -/
def Status.owed? (cancelled : ρ) : Status ρ → Option ρ
  | .finished result => some result
  | .dropped => some cancelled
  | _ => none

namespace Calls

/-! ## Transitions -/

/-- The computation of a call is running. -/
def Leads (state : Calls ρ) (call : Nat) (key : String) (ticket : Nat) : Prop :=
  state.find? call = some ⟨key, .leading ticket⟩

theorem Leads.inj {state : Calls ρ} {call : Nat} {key other : String} {ticket otherTicket : Nat}
    (leads : state.Leads call key ticket) (again : state.Leads call other otherTicket) :
    key = other ∧ ticket = otherTicket := by
  simpa using leads.symm.trans again

/-- A call waits for the outcome of a computation. -/
def Waits (state : Calls ρ) (call : Nat) (key : String) (ticket : Nat) : Prop :=
  state.find? call = some ⟨key, .waiting ticket⟩

theorem Waits.inj {state : Calls ρ} {call : Nat} {key other : String} {ticket otherTicket : Nat}
    (waits : state.Waits call key ticket) (again : state.Waits call other otherTicket) :
    key = other ∧ ticket = otherTicket := by
  simpa using waits.symm.trans again

theorem Waits.not_leads {state : Calls ρ} {call : Nat} {key : String} {ticket : Nat}
    (waits : state.Waits call key ticket) (other : String) (otherTicket : Nat) :
    ¬ state.Leads call other otherTicket := by
  intro leads
  simpa using waits.symm.trans leads

@[simp]
theorem flight_update (state : Calls ρ) (call : Nat) (key : String) (status : Status ρ) :
    (state.update call key status).flight = state.flight := rfl

theorem find?_update (state : Calls ρ) (call other : Nat) (key : String) (status : Status ρ) :
    (state.update call key status).find? other =
      if other = call then some ⟨key, status⟩ else state.find? other :=
  Ordered.get?_put call other _ state.calls

@[simp]
theorem find?_withFlight (state : Calls ρ) (flight : Flight ρ) (call : Nat) :
    { state with flight }.find? call = state.find? call := rfl

def conclude (state : Calls ρ) (call : Nat) (key : String) (ticket : Nat) (outcome : ρ)
    (status : Status ρ) : Calls ρ :=
  (state.settle key ticket outcome).1.update call key status

@[simp]
theorem flight_conclude (state : Calls ρ) (call : Nat) (key : String) (ticket : Nat)
    (outcome : ρ) (status : Status ρ) :
    (state.conclude call key ticket outcome status).flight =
      state.flight.settle key ticket outcome := rfl

theorem find?_conclude (state : Calls ρ) (call other : Nat) (key : String) (ticket : Nat)
    (outcome : ρ) (status : Status ρ) :
    (state.conclude call key ticket outcome status).find? other =
      if other = call then some ⟨key, status⟩ else state.find? other :=
  find?_update _ call other key status

inductive Transition (cancelled : ρ) (state : Calls ρ) :
    Event ρ → Calls ρ → List (Effect ρ) → Prop where
  /-- The event does not fit the state of its call. -/
  | ignore (event : Event ρ) : Transition cancelled state event state []
  | lead {call : Nat} {key : String} (new : state.find? call = none)
      (free : state.flight.running.lookup key = none) :
      Transition cancelled state (.start call key)
        ({ state with flight := state.flight.register key }.update call key
          (.leading state.flight.issued))
        [.invoke call]
  | join {call : Nat} {key : String} {ticket : Nat} (new : state.find? call = none)
      (found : state.flight.running.lookup key = some ticket) :
      Transition cancelled state (.start call key)
        (state.update call key (.waiting ticket)) []
  | complete {call : Nat} {key : String} {ticket : Nat} (leads : state.Leads call key ticket)
      (result : ρ) :
      Transition cancelled state (.complete call result)
        (state.conclude call key ticket result (.finished result))
        (.finish call result :: (state.waiters ticket).map .wake)
  | resume {call : Nat} {key : String} {ticket : Nat} {outcome : ρ}
      (waits : state.Waits call key ticket)
      (published : state.flight.outcome? ticket = some outcome) :
      Transition cancelled state (.resume call)
        (state.update call key (.finished outcome)) [.finish call outcome]
  | dropLeader {call : Nat} {key : String} {ticket : Nat}
      (leads : state.Leads call key ticket) :
      Transition cancelled state (.drop call)
        (state.conclude call key ticket cancelled .dropped)
        ((state.waiters ticket).map .wake)
  | dropWaiter {call : Nat} {key : String} {ticket : Nat}
      (waits : state.Waits call key ticket) :
      Transition cancelled state (.drop call) (state.update call key .dropped) []

/-- A new call leads a computation if its key has none. -/
theorem step_start_of_free (cancelled : ρ) {state : Calls ρ} {call : Nat} {key : String}
    (new : state.find? call = none) (free : state.flight.running.lookup key = none) :
    state.step cancelled (.start call key) =
      ({ state with flight := state.flight.register key }.update call key
        (.leading state.flight.issued), [.invoke call]) := by
  simp [step, new, enter_of_free free]

/-- A new call joins the computation that is running for its key. -/
theorem step_start_of_running (cancelled : ρ) {state : Calls ρ} {call : Nat} {key : String}
    {ticket : Nat} (new : state.find? call = none)
    (found : state.flight.running.lookup key = some ticket) :
    state.step cancelled (.start call key) = (state.update call key (.waiting ticket), []) := by
  simp [step, new, enter_of_running found]

theorem step_complete (cancelled : ρ) {state : Calls ρ} {call : Nat} {key : String}
    {ticket : Nat} (leads : state.Leads call key ticket) (result : ρ) :
    state.step cancelled (.complete call result) =
      (state.conclude call key ticket result (.finished result),
        .finish call result :: (state.waiters ticket).map .wake) := by
  rw [Leads] at leads
  simp [step, leads, conclude, settle]

theorem step_resume (cancelled : ρ) {state : Calls ρ} {call : Nat} {key : String}
    {ticket : Nat} {outcome : ρ} (waits : state.Waits call key ticket)
    (published : state.flight.outcome? ticket = some outcome) :
    state.step cancelled (.resume call) =
      (state.update call key (.finished outcome), [.finish call outcome]) := by
  rw [Waits] at waits
  simp [step, waits, published]

theorem step_drop_leader (cancelled : ρ) {state : Calls ρ} {call : Nat} {key : String}
    {ticket : Nat} (leads : state.Leads call key ticket) :
    state.step cancelled (.drop call) =
      (state.conclude call key ticket cancelled .dropped,
        (state.waiters ticket).map .wake) := by
  rw [Leads] at leads
  simp [step, leads, conclude, settle]

theorem step_drop_waiter (cancelled : ρ) {state : Calls ρ} {call : Nat} {key : String}
    {ticket : Nat} (waits : state.Waits call key ticket) :
    state.step cancelled (.drop call) = (state.update call key .dropped, []) := by
  rw [Waits] at waits
  simp [step, waits]

/-- Every step is one of the transitions. -/
theorem transition (cancelled : ρ) (state : Calls ρ) (event : Event ρ) :
    Transition cancelled state event
      (state.step cancelled event).1 (state.step cancelled event).2 := by
  cases event with
  | start call key =>
      cases new : state.find? call with
      | some other =>
          simpa [step, new] using Transition.ignore (.start call key)
      | none =>
          cases found : state.flight.running.lookup key with
          | none =>
              rw [step_start_of_free cancelled new found]
              exact .lead new found
          | some ticket =>
              rw [step_start_of_running cancelled new found]
              exact .join new found
  | complete call result =>
      rcases found : state.find? call with _ | ⟨key, _ | _ | _ | _⟩
      case some.leading ticket =>
        rw [step_complete cancelled found]
        exact .complete found result
      all_goals simpa [step, found] using Transition.ignore (.complete call result)
  | resume call =>
      rcases found : state.find? call with _ | ⟨key, _ | _ | _ | _⟩
      case some.waiting ticket =>
        cases published : state.flight.outcome? ticket with
        | none => simpa [step, found, published] using Transition.ignore (.resume call)
        | some outcome =>
            rw [step_resume cancelled found published]
            exact .resume found published
      all_goals simpa [step, found] using Transition.ignore (.resume call)
  | drop call =>
      rcases found : state.find? call with _ | ⟨key, _ | _ | _ | _⟩
      case some.leading ticket =>
        rw [step_drop_leader cancelled found]
        exact .dropLeader found
      case some.waiting ticket =>
        rw [step_drop_waiter cancelled found]
        exact .dropWaiter found
      all_goals simpa [step, found] using Transition.ignore (.drop call)

namespace Transition

variable {cancelled : ρ} {state next : Calls ρ} {event : Event ρ} {effects : List (Effect ρ)}
  (transition : Transition cancelled state event next effects)

include transition

/-- An event changes how far its own call has come, and no other one. -/
theorem frame {other : Nat} (different : other ≠ event.call) :
    next.find? other = state.find? other := by
  cases transition with
  | ignore => rfl
  | complete | dropLeader => exact (find?_conclude _ _ _ _ _ _ _).trans (if_neg different)
  | _ => exact (find?_update _ _ _ _ _).trans (if_neg different)

/-- A call that was made stays known. -/
theorem known {call : Nat} (known : state.find? call ≠ none) : next.find? call ≠ none := by
  cases transition with
  | ignore => exact known
  | complete | dropLeader => rw [find?_conclude]; split <;> simp [known]
  | _ => rw [find?_update]; split <;> simp [known]

/-- A call that has ended stays as it is. -/
theorem ended {call : Nat} {key : String} {status : Status ρ} {outcome : ρ}
    (found : state.find? call = some ⟨key, status⟩)
    (owed : status.owed? cancelled = some outcome) : next.find? call = some ⟨key, status⟩ := by
  by_cases own : call = event.call
  · subst own
    cases transition with
    | ignore => exact found
    | lead new | join new => cases found.symm.trans new
    | complete leads | dropLeader leads => cases found.symm.trans leads; cases owed
    | resume waits | dropWaiter waits => cases found.symm.trans waits; cases owed
  · rw [transition.frame own, found]

/-- A leader goes on, completes or is dropped; when it ends, its outcome is published. -/
theorem leading {call : Nat} {key : String} {ticket : Nat}
    (leads : state.Leads call key ticket) :
    next.Leads call key ticket ∨
      (∃ result, event = .complete call result ∧
        next.find? call = some ⟨key, .finished result⟩ ∧
        next.flight.outcome? ticket = some result) ∨
      (event = .drop call ∧ next.find? call = some ⟨key, .dropped⟩ ∧
        next.flight.outcome? ticket = some cancelled) := by
  by_cases own : call = event.call
  · subst own
    cases transition with
    | ignore => exact Or.inl leads
    | lead new | join new => cases leads.symm.trans new
    | complete again result =>
        obtain ⟨rfl, rfl⟩ := leads.inj again
        refine Or.inr (Or.inl ⟨result, rfl, ?_, ?_⟩)
        · rw [find?_conclude]
          exact if_pos rfl
        · rw [flight_conclude, outcome?_settle, if_pos rfl]
    | dropLeader again =>
        obtain ⟨rfl, rfl⟩ := leads.inj again
        refine Or.inr (Or.inr ⟨rfl, ?_, ?_⟩)
        · rw [find?_conclude]
          exact if_pos rfl
        · rw [flight_conclude, outcome?_settle, if_pos rfl]
    | resume waits | dropWaiter waits => exact absurd leads (waits.not_leads _ _)
  · refine Or.inl ?_
    rw [Leads, transition.frame own]
    exact leads

/-- A waiting call goes on waiting, takes up the outcome, or is dropped. -/
theorem waiting {call : Nat} {key : String} {ticket : Nat}
    (waits : state.Waits call key ticket) :
    next.Waits call key ticket ∨ next.find? call = some ⟨key, .dropped⟩ ∨
      ∃ outcome, state.flight.outcome? ticket = some outcome ∧
        next.find? call = some ⟨key, .finished outcome⟩ := by
  by_cases own : call = event.call
  · subst own
    cases transition with
    | ignore => exact Or.inl waits
    | lead new | join new => cases waits.symm.trans new
    | complete leads | dropLeader leads => exact absurd leads (waits.not_leads _ _)
    | resume again published =>
        obtain ⟨rfl, rfl⟩ := waits.inj again
        refine Or.inr (Or.inr ⟨_, published, ?_⟩)
        rw [find?_update]
        exact if_pos rfl
    | dropWaiter again =>
        obtain ⟨rfl, -⟩ := waits.inj again
        refine Or.inr (Or.inl ?_)
        rw [find?_update]
        exact if_pos rfl
  · refine Or.inl ?_
    rw [Waits, transition.frame own]
    exact waits

/-- A call ends with the result of its own computation or with a published outcome. -/
theorem finished {call : Nat} {result : ρ} (finish : .finish call result ∈ effects) :
    (∃ key ticket, state.Leads call key ticket) ∨
      ∃ key ticket, state.Waits call key ticket ∧
        state.flight.outcome? ticket = some result := by
  cases transition with
  | complete leads own =>
      obtain ⟨rfl, -⟩ : call = _ ∧ result = own := by simpa using finish
      exact Or.inl ⟨_, _, leads⟩
  | resume waits published =>
      obtain ⟨rfl, rfl⟩ : call = _ ∧ result = _ := by simpa using finish
      exact Or.inr ⟨_, _, waits, published⟩
  | _ => simp at finish

end Transition

/-! ## Runs -/

@[simp]
theorem run_nil (cancelled : ρ) (state : Calls ρ) : state.run cancelled [] = (state, []) := rfl

theorem run_cons (cancelled : ρ) (state : Calls ρ) (event : Event ρ) (events : List (Event ρ)) :
    state.run cancelled (event :: events) =
      (((state.step cancelled event).1.run cancelled events).1,
        (state.step cancelled event).2 ++
          ((state.step cancelled event).1.run cancelled events).2) := rfl

theorem run_append (cancelled : ρ) (state : Calls ρ) (first second : List (Event ρ)) :
    state.run cancelled (first ++ second) =
      (((state.run cancelled first).1.run cancelled second).1,
        (state.run cancelled first).2 ++
          ((state.run cancelled first).1.run cancelled second).2) := by
  induction first generalizing state with
  | nil => rfl
  | cons event events ih => simp [run_cons, ih]

/-- What every step keeps is kept by every run. -/
theorem run_induction (cancelled : ρ) {kept : Calls ρ → Prop}
    (step : ∀ state event, kept state → kept (state.step cancelled event).1)
    {state : Calls ρ} (start : kept state) (events : List (Event ρ)) :
    kept (state.run cancelled events).1 := by
  induction events generalizing state with
  | nil => exact start
  | cons event events ih => exact ih (step state event start)

end Calls

end ReadThrough.Flight
