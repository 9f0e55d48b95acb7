import ReadThrough.Proofs.Flight.Exclusive

/-!
# Keys do not interfere

The calls for one key go the same way whether or not there are calls for other
keys.  A run is set beside the run of only those events that concern the calls
for the key: each event of these calls has the same effects in both runs, no
other event has an effect on them, and at any time they have come equally far.
The tickets differ, since all keys share the numbers of the tickets, but they do
so by a renaming that keeps different tickets apart.
-/

namespace ReadThrough.Flight

variable {ρ : Type}

def Event.starts? (call : Nat) : Event ρ → Option String
  | .start other key => if other = call then some key else none
  | _ => none

/-- The key for which a call is made, if it is made: that of its first start. -/
def keyIn? (events : List (Event ρ)) (call : Nat) : Option String :=
  events.findSome? (Event.starts? call)

def Status.rename (rename : Nat → Nat) : Status ρ → Status ρ
  | .leading ticket => .leading (rename ticket)
  | .waiting ticket => .waiting (rename ticket)
  | .finished result => .finished result
  | .dropped => .dropped

def Call.rename (rename : Nat → Nat) (call : Call ρ) : Call ρ :=
  ⟨call.key, call.status.rename rename⟩

def Status.ticket? : Status ρ → Option Nat
  | .leading ticket | .waiting ticket => some ticket
  | _ => none

theorem Status.rename_congr {first second : Nat → Nat} {status : Status ρ}
    (same : ∀ ticket, status.ticket? = some ticket → first ticket = second ticket) :
    status.rename first = status.rename second := by
  cases status with
  | leading ticket => exact congrArg _ (same ticket rfl)
  | waiting ticket => exact congrArg _ (same ticket rfl)
  | finished result => rfl
  | dropped => rfl

namespace Calls

def trace (cancelled : ρ) (state : Calls ρ) : List (Event ρ) → List (Event ρ × List (Effect ρ))
  | [] => []
  | event :: events =>
    (event, (state.step cancelled event).2) :: (state.step cancelled event).1.trace cancelled events

/-! ## The calls that wait for a ticket -/

section Waiters

variable {state : Calls ρ} {ticket : Nat}

theorem mem_waiters (ascending : Ordered.Ascending state.calls) {call : Nat} :
    call ∈ state.waiters ticket ↔ ∃ key, state.Waits call key ticket := by
  rw [waiters, List.mem_filterMap]
  constructor
  · rintro ⟨⟨other, key, status⟩, present, waits⟩
    cases status with
    | waiting otherTicket =>
        obtain ⟨rfl, rfl⟩ : otherTicket = ticket ∧ other = call := by simpa using waits
        exact ⟨key, ascending.mem_iff.mp present⟩
    | _ => simp at waits
  · rintro ⟨key, waits⟩
    exact ⟨(call, ⟨key, .waiting ticket⟩), ascending.mem_iff.mpr waits, by simp⟩

theorem pairwise_waiters (ascending : Ordered.Ascending state.calls) :
    (state.waiters ticket).Pairwise (· < ·) := by
  refine List.pairwise_filterMap.mpr (ascending.imp ?_)
  rintro ⟨first, firstKey, firstStatus⟩ ⟨second, secondKey, secondStatus⟩ below
  cases firstStatus <;> cases secondStatus <;> grind

/-- The calls that wait for a leader have its key. -/
theorem Consistent.waiter_key (consistent : Consistent state) {leader call : Nat}
    {key other : String} (leads : state.Leads leader key ticket)
    (waits : state.Waits call other ticket) : other = key := by
  rcases consistent.awaited _ _ _ waits with ⟨again, leadsAgain⟩ | published
  · obtain rfl := consistent.ownTicket _ _ _ _ _ leads leadsAgain
    exact (leadsAgain.inj leads).1
  · rw [consistent.unsettled _ _ _ leads] at published
    cases published

theorem Consistent.waits_lt (consistent : Consistent state) {call : Nat} {key : String}
    (waits : state.Waits call key ticket) : ticket < state.flight.issued := by
  rcases consistent.awaited _ _ _ waits with ⟨leader, leads⟩ | published
  · exact consistent.issued _ _ _ leads
  · obtain ⟨outcome, published⟩ := Option.isSome_iff_exists.mp published
    exact consistent.settledIssued _ _ published

/-- Nothing is published under the next ticket. -/
theorem Consistent.unpublished (consistent : Consistent state) :
    state.flight.outcome? state.flight.issued = none := by
  refine Option.eq_none_iff_forall_ne_some.mpr fun outcome published => ?_
  exact absurd (consistent.settledIssued _ _ published) (Nat.lt_irrefl _)

theorem Consistent.ticket_lt (consistent : Consistent state) {call : Nat} {key : String}
    {status : Status ρ} (found : state.find? call = some ⟨key, status⟩)
    (own : status.ticket? = some ticket) : ticket < state.flight.issued := by
  cases status with
  | leading => exact consistent.issued call key ticket (Option.some.inj own ▸ found)
  | waiting =>
      have waits : state.Waits call key ticket := Option.some.inj own ▸ found
      exact consistent.waits_lt waits
  | finished | dropped => cases own

end Waiters

/-! ## A run and the part of it that concerns one key -/

/--
The calls for a key have come equally far in both states, up to the numbers of
their tickets, and there are no other calls in the second one.
-/
structure Projection (mine : Nat → Prop) (key : String) (rename : Nat → Nat)
    (whole part : Calls ρ) : Prop where
  calls : ∀ call, mine call → whole.find? call = (part.find? call).map (Call.rename rename)
  others : ∀ call, ¬ mine call → part.find? call = none
  running : whole.flight.running.lookup key = (part.flight.running.lookup key).map rename
  outcomes : ∀ ticket, ticket < part.flight.issued →
    whole.flight.outcome? (rename ticket) = part.flight.outcome? ticket
  distinct : ∀ first second, first < part.flight.issued → second < part.flight.issued →
    rename first = rename second → first = second

/-- Moreover the calls for other keys have nothing to do with the tickets of the key. -/
structure Separate (mine : Nat → Prop) (key : String) (rename : Nat → Nat)
    (whole part : Calls ρ) : Prop extends Projection mine key rename whole part where
  keyed : ∀ call own, whole.find? call = some own → (own.key = key ↔ mine call)
  issued : ∀ ticket, ticket < part.flight.issued → rename ticket < whole.flight.issued
  led : ∀ ticket call other, ticket < part.flight.issued →
    whole.Leads call other (rename ticket) → other = key

namespace Separate

theorem empty (mine : Nat → Prop) (key : String) (rename : Nat → Nat) :
    Separate mine key rename (Calls.empty : Calls ρ) Calls.empty where
  calls _ _ := rfl
  others _ _ := rfl
  running := rfl
  outcomes _ given := absurd given (Nat.not_lt_zero _)
  distinct _ _ given := absurd given (Nat.not_lt_zero _)
  keyed _ _ found := nomatch found
  issued _ given := absurd given (Nat.not_lt_zero _)
  led _ _ _ given := absurd given (Nat.not_lt_zero _)

variable {mine : Nat → Prop} {key : String} {rename : Nat → Nat} {whole part : Calls ρ}
  (separate : Separate mine key rename whole part)

include separate

/-- A call of the second state is a call for the key, and in the first state it is as far. -/
theorem found {call : Nat} {other : String} {status : Status ρ}
    (found : part.find? call = some ⟨other, status⟩) :
    mine call ∧ other = key ∧ whole.find? call = some ⟨key, status.rename rename⟩ := by
  have own : mine call := by
    by_contra foreign
    cases found.symm.trans (separate.others call foreign)
  have same := separate.calls call own
  rw [found, Option.map_some, Call.rename] at same
  obtain rfl : other = key := (separate.keyed _ _ same).mpr own
  exact ⟨own, rfl, same⟩

/-! ### Events of the calls for the key -/

theorem update {call : Nat} (own : mine call) (status : Status ρ) :
    Separate mine key rename (whole.update call key (status.rename rename))
      (part.update call key status) where
  calls other otherOwn := by
    rw [find?_update, find?_update]
    split
    · rfl
    · exact separate.calls other otherOwn
  others other foreign := by
    rw [find?_update, if_neg]
    · exact separate.others other foreign
    · rintro rfl
      exact foreign own
  running := separate.running
  outcomes := separate.outcomes
  distinct := separate.distinct
  keyed other found := by
    rw [find?_update]
    split
    · rintro ⟨⟩
      subst other
      exact iff_of_true rfl own
    · exact separate.keyed other found
  issued := separate.issued
  led ticket other otherKey given leads := by
    rw [Leads, find?_update] at leads
    split at leads
    · exact (congrArg Call.key (Option.some.inj leads)).symm
    · exact separate.led ticket other otherKey given leads

/-- The next ticket of the part stands for the next ticket of the whole. -/
theorem register (consistentWhole : Consistent whole) (consistentPart : Consistent part) :
    Separate mine key (Function.update rename part.flight.issued whole.flight.issued)
      { whole with flight := whole.flight.register key }
      { part with flight := part.flight.register key } := by
  have new : Function.update rename part.flight.issued whole.flight.issued part.flight.issued =
      whole.flight.issued := Function.update_self _ _ _
  have old {ticket : Nat} (given : ticket < part.flight.issued) :
      Function.update rename part.flight.issued whole.flight.issued ticket = rename ticket :=
    Function.update_of_ne (Nat.ne_of_lt given) _ _
  refine ⟨⟨?_, separate.others, ?_, ?_, ?_⟩, separate.keyed, ?_, ?_⟩
  · intro call own
    refine (separate.calls call own).trans (Option.map_congr fun other found => ?_)
    refine congrArg (Call.mk other.key) (Status.rename_congr fun ticket held => ?_)
    exact (old (consistentPart.ticket_lt found held)).symm
  · rw [lookup_register, lookup_register, if_pos rfl, if_pos rfl, Option.map_some, new]
  · intro ticket given
    rcases Nat.lt_succ_iff_lt_or_eq.mp given with before | rfl
    · exact (congrArg _ (old before)).trans (separate.outcomes ticket before)
    · rw [new]
      exact consistentWhole.unpublished.trans consistentPart.unpublished.symm
  · intro first second givenFirst givenSecond same
    rcases Nat.lt_succ_iff_lt_or_eq.mp givenFirst with beforeFirst | rfl
    · rcases Nat.lt_succ_iff_lt_or_eq.mp givenSecond with beforeSecond | rfl
      · rw [old beforeFirst, old beforeSecond] at same
        exact separate.distinct first second beforeFirst beforeSecond same
      · rw [old beforeFirst, new] at same
        exact absurd (separate.issued first beforeFirst) (same ▸ Nat.lt_irrefl _)
    · rcases Nat.lt_succ_iff_lt_or_eq.mp givenSecond with beforeSecond | rfl
      · rw [old beforeSecond, new] at same
        exact absurd (separate.issued second beforeSecond) (same ▸ Nat.lt_irrefl _)
      · rfl
  · intro ticket given
    rcases Nat.lt_succ_iff_lt_or_eq.mp given with before | rfl
    · rw [old before]
      exact Nat.lt_succ_of_lt (separate.issued ticket before)
    · rw [new]
      exact Nat.lt_succ_self _
  · intro ticket call other given leads
    rcases Nat.lt_succ_iff_lt_or_eq.mp given with before | rfl
    · rw [old before] at leads
      exact separate.led ticket call other before leads
    · rw [new] at leads
      exact absurd (consistentWhole.issued call other _ leads) (Nat.lt_irrefl _)

theorem settle {ticket : Nat} (given : ticket < part.flight.issued) (outcome : ρ) :
    Separate mine key rename
      { whole with flight := whole.flight.settle key (rename ticket) outcome }
      { part with flight := part.flight.settle key ticket outcome } := by
  refine ⟨⟨separate.calls, separate.others, ?_, ?_, separate.distinct⟩, separate.keyed,
    separate.issued, separate.led⟩
  · rw [lookup_settle, lookup_settle, if_pos rfl, if_pos rfl]
    rfl
  · intro other givenOther
    rw [outcome?_settle, outcome?_settle, separate.outcomes other givenOther]
    by_cases same : other = ticket
    · rw [if_pos (congrArg rename same), if_pos same]
    · rw [if_neg fun renamed => same (separate.distinct other ticket givenOther given renamed),
        if_neg same]

/-- The same calls wait for a ticket and for the one that it stands for. -/
theorem waiters (consistentWhole : Consistent whole) (consistentPart : Consistent part)
    {leader : Nat} {ticket : Nat} (leads : part.Leads leader key ticket) :
    whole.waiters (rename ticket) = part.waiters ticket := by
  refine Ordered.eq_of_mem_iff (pairwise_waiters consistentWhole.ascending)
    (pairwise_waiters consistentPart.ascending) fun call => ?_
  rw [mem_waiters consistentWhole.ascending, mem_waiters consistentPart.ascending]
  constructor
  · rintro ⟨other, waits⟩
    obtain ⟨-, -, leadsWhole⟩ := separate.found leads
    obtain rfl : other = key := consistentWhole.waiter_key leadsWhole waits
    have own : mine call := (separate.keyed call _ waits).mp rfl
    have same := (separate.calls call own).symm.trans waits
    obtain ⟨⟨_, status⟩, found, renamed⟩ := Option.map_eq_some_iff.mp same
    have renamedStatus := congrArg Call.status renamed
    cases status with
    | waiting otherTicket =>
        obtain rfl : otherTicket = ticket := separate.distinct _ _
          (consistentPart.waits_lt found) (consistentPart.issued _ _ _ leads)
          (Status.waiting.inj renamedStatus)
        exact ⟨_, found⟩
    | _ => cases renamedStatus
  · rintro ⟨other, waits⟩
    exact ⟨key, (separate.found waits).2.2⟩

/-! ### Events of other calls -/

section Foreign

variable {other : String} (foreignKey : other ≠ key)

include foreignKey

theorem updateOther {call : Nat} (foreign : ¬ mine call) {status : Status ρ}
    (apart : ∀ ticket, ticket < part.flight.issued → status ≠ .leading (rename ticket)) :
    Separate mine key rename (whole.update call other status) part := by
  refine ⟨⟨?_, separate.others, separate.running, separate.outcomes, separate.distinct⟩, ?_,
    separate.issued, ?_⟩
  · intro own isMine
    rw [find?_update, if_neg]
    · exact separate.calls own isMine
    · rintro rfl
      exact foreign isMine
  · intro own found
    rw [find?_update]
    split
    · rintro ⟨⟩
      subst own
      exact iff_of_false foreignKey foreign
    · exact separate.keyed own found
  · intro ticket own ownKey given leads
    rw [Leads, find?_update] at leads
    split at leads
    · exact absurd (congrArg Call.status (Option.some.inj leads)) (apart ticket given)
    · exact separate.led ticket own ownKey given leads

theorem registerOther :
    Separate mine key rename { whole with flight := whole.flight.register other } part := by
  refine ⟨⟨separate.calls, separate.others, ?_, separate.outcomes, separate.distinct⟩,
    separate.keyed, fun ticket given => Nat.lt_succ_of_lt (separate.issued ticket given),
    separate.led⟩
  rw [lookup_register, if_neg (Ne.symm foreignKey)]
  exact separate.running

theorem settleOther {call : Nat} {ticket : Nat} (leads : whole.Leads call other ticket)
    (outcome : ρ) :
    Separate mine key rename
      { whole with flight := whole.flight.settle other ticket outcome } part := by
  refine ⟨⟨separate.calls, separate.others, ?_, ?_, separate.distinct⟩,
    separate.keyed, separate.issued, separate.led⟩
  · rw [lookup_settle, if_neg (Ne.symm foreignKey)]
    exact separate.running
  · intro own given
    rw [outcome?_settle, if_neg]
    · exact separate.outcomes own given
    · rintro rfl
      exact foreignKey (separate.led own call other given leads)

end Foreign

/-! ### Steps -/

section Steps

variable (cancelled : ρ) {event : Event ρ} (consistentWhole : Consistent whole)
  (consistentPart : Consistent part)

include consistentWhole consistentPart

/-- An event of a call for the key does the same in both states. -/
theorem step_own (own : mine event.call)
    (fit : ∀ call other, event = .start call other → whole.find? call = none → other = key) :
    (whole.step cancelled event).2 = (part.step cancelled event).2 ∧
      ∃ renamed, Separate mine key renamed (whole.step cancelled event).1
        (part.step cancelled event).1 := by
  have same := separate.calls event.call own
  cases event with
  | start call other =>
      cases new : part.find? call with
      | some found =>
          rw [Event.call, new] at same
          simpa [step, new, same] using ⟨rename, separate⟩
      | none =>
          rw [Event.call, new] at same
          have newWhole : whole.find? call = none := same
          obtain rfl := fit call other rfl newWhole
          have running := separate.running
          cases held : part.flight.running.lookup other with
          | none =>
              rw [held] at running
              rw [step_start_of_free cancelled newWhole running,
                step_start_of_free cancelled new held]
              have led := (separate.register consistentWhole consistentPart).update own
                (.leading part.flight.issued)
              rw [Status.rename, Function.update_self] at led
              exact ⟨rfl, _, led⟩
          | some ticket =>
              rw [held] at running
              rw [step_start_of_running cancelled newWhole running,
                step_start_of_running cancelled new held]
              exact ⟨rfl, rename, separate.update own (.waiting ticket)⟩
  | complete call result =>
      rcases found : part.find? call with _ | ⟨other, _ | _ | _ | _⟩
      case some.leading ticket =>
        obtain ⟨-, rfl, foundWhole⟩ := separate.found found
        rw [step_complete cancelled foundWhole, step_complete cancelled found,
          separate.waiters consistentWhole consistentPart found]
        have given := consistentPart.issued _ _ _ found
        exact ⟨rfl, rename, (separate.settle given result).update own (.finished result)⟩
      all_goals
        rw [Event.call, found] at same
        simpa [step, found, same, Call.rename, Status.rename] using ⟨rename, separate⟩
  | resume call =>
      rcases found : part.find? call with _ | ⟨other, _ | _ | _ | _⟩
      case some.waiting ticket =>
        obtain ⟨-, rfl, foundWhole⟩ := separate.found found
        have outcome := separate.outcomes ticket (consistentPart.waits_lt found)
        cases published : part.flight.outcome? ticket with
        | none =>
            rw [published] at outcome
            simpa [step, found, foundWhole, Status.rename, published, outcome] using
              ⟨rename, separate⟩
        | some result =>
            rw [published] at outcome
            rw [step_resume cancelled foundWhole outcome, step_resume cancelled found published]
            exact ⟨rfl, rename, separate.update own (.finished result)⟩
      all_goals
        rw [Event.call, found] at same
        simpa [step, found, same, Call.rename, Status.rename] using ⟨rename, separate⟩
  | drop call =>
      rcases found : part.find? call with _ | ⟨other, _ | _ | _ | _⟩
      case some.leading ticket =>
        obtain ⟨-, rfl, foundWhole⟩ := separate.found found
        rw [step_drop_leader cancelled foundWhole, step_drop_leader cancelled found,
          separate.waiters consistentWhole consistentPart found]
        have given := consistentPart.issued _ _ _ found
        exact ⟨rfl, rename, (separate.settle given cancelled).update own .dropped⟩
      case some.waiting ticket =>
        obtain ⟨-, rfl, foundWhole⟩ := separate.found found
        rw [step_drop_waiter cancelled foundWhole, step_drop_waiter cancelled found]
        exact ⟨rfl, rename, separate.update own .dropped⟩
      all_goals
        rw [Event.call, found] at same
        simpa [step, found, same, Call.rename, Status.rename] using ⟨rename, separate⟩

end Steps

/-- An event of another call changes nothing for the calls for the key. -/
theorem step_foreign {cancelled : ρ} {event : Event ρ} {next : Calls ρ}
    {effects : List (Effect ρ)} (consistent : Consistent whole) (foreign : ¬ mine event.call)
    (fit : ∀ call other, event = .start call other → whole.find? call = none → other ≠ key)
    (transition : Transition cancelled whole event next effects) :
    Separate mine key rename next part ∧ ∀ effect ∈ effects, ¬ mine effect.call := by
  have foreignKey {call : Nat} {other : String} {status : Status ρ} (foreign : ¬ mine call)
      (found : whole.find? call = some ⟨other, status⟩) : other ≠ key :=
    fun same => foreign ((separate.keyed call _ found).mp same)
  have woken {leader : Nat} {other : String} {ticket : Nat} (foreign : ¬ mine leader)
      (leads : whole.Leads leader other ticket) (effect : Effect ρ)
      (wakes : effect ∈ (whole.waiters ticket).map .wake) : ¬ mine effect.call := by
    obtain ⟨call, waiting, rfl⟩ := List.mem_map.mp wakes
    obtain ⟨waitingKey, waits⟩ := (mem_waiters consistent.ascending).mp waiting
    obtain rfl := consistent.waiter_key leads waits
    exact fun own => foreignKey foreign leads ((separate.keyed call _ waits).mpr own)
  cases transition with
  | ignore => exact ⟨separate, nofun⟩
  | lead new free =>
      have apart := fit _ _ rfl new
      refine ⟨(separate.registerOther apart).updateOther apart foreign ?_,
        List.forall_mem_singleton.mpr foreign⟩
      intro ticket given same
      exact Nat.ne_of_gt (separate.issued ticket given) (Status.leading.inj same)
  | join new found => exact ⟨separate.updateOther (fit _ _ rfl new) foreign nofun, nofun⟩
  | complete leads result =>
      have apart := foreignKey foreign leads
      refine ⟨(separate.settleOther apart leads result).updateOther apart foreign nofun, ?_⟩
      intro effect present
      rcases List.mem_cons.mp present with rfl | wakes
      · exact foreign
      · exact woken foreign leads effect wakes
  | resume waits published =>
      exact ⟨separate.updateOther (foreignKey foreign waits) foreign nofun,
        List.forall_mem_singleton.mpr foreign⟩
  | dropLeader leads =>
      have apart := foreignKey foreign leads
      exact ⟨(separate.settleOther apart leads cancelled).updateOther apart foreign nofun,
        woken foreign leads⟩
  | dropWaiter waits =>
      exact ⟨separate.updateOther (foreignKey foreign waits) foreign nofun, nofun⟩

/-- Whatever happens in the second state happens to calls for the key. -/
theorem effects_own {cancelled : ρ} {event : Event ρ} {next : Calls ρ}
    {effects : List (Effect ρ)} (consistent : Consistent part) (own : mine event.call)
    (transition : Transition cancelled part event next effects) :
    ∀ effect ∈ effects, mine effect.call := by
  have woken {ticket : Nat} (effect : Effect ρ)
      (wakes : effect ∈ (part.waiters ticket).map .wake) : mine effect.call := by
    obtain ⟨call, waiting, rfl⟩ := List.mem_map.mp wakes
    obtain ⟨_, waits⟩ := (mem_waiters consistent.ascending).mp waiting
    exact (separate.found waits).1
  cases transition with
  | ignore | join | dropWaiter => exact nofun
  | lead | resume => exact List.forall_mem_singleton.mpr own
  | complete leads result =>
      intro effect present
      rcases List.mem_cons.mp present with rfl | wakes
      · exact own
      · exact woken effect wakes
  | dropLeader => exact woken

end Separate

/-! ## Runs -/

/-- A call is known once it has been started. -/
theorem start_known (cancelled : ρ) (state : Calls ρ) (call : Nat) (key : String) :
    (state.step cancelled (.start call key)).1.find? call ≠ none := by
  cases new : state.find? call with
  | some found => exact (transition cancelled state _).known (by simp [new])
  | none =>
      cases held : state.flight.running.lookup key with
      | none => simp [step_start_of_free cancelled new held, find?_update]
      | some ticket => simp [step_start_of_running cancelled new held, find?_update]

theorem keyIn?_cons (event : Event ρ) (events : List (Event ρ)) (call : Nat) :
    keyIn? (event :: events) call = (event.starts? call).or (keyIn? events call) := by
  rw [keyIn?, List.findSome?_cons]
  cases event.starts? call <;> rfl

theorem keyIn?_start (call : Nat) (key : String) (events : List (Event ρ)) :
    keyIn? (.start call key :: events) call = some key := by
  rw [keyIn?_cons, Event.starts?, if_pos rfl, Option.some_or]

/-- The effects of a run are those of its events one after the other. -/
theorem effects_run (cancelled : ρ) (state : Calls ρ) (events : List (Event ρ)) :
    (state.run cancelled events).2 = (state.trace cancelled events).flatMap Prod.snd := by
  induction events generalizing state with
  | nil => rfl
  | cons event events ih => rw [run_cons, trace, List.flatMap_cons, ih]

/--
The calls for a key are those that `mine` tells, as far as they are still to be
started in the events.
-/
def Fits (mine : Nat → Prop) (key : String) (state : Calls ρ) (events : List (Event ρ)) : Prop :=
  ∀ call other, state.find? call = none → keyIn? events call = some other →
    (other = key ↔ mine call)

theorem Fits.next {mine : Nat → Prop} {key : String} {state : Calls ρ} {event : Event ρ}
    {events : List (Event ρ)} (fits : Fits mine key state (event :: events)) (cancelled : ρ) :
    Fits mine key (state.step cancelled event).1 events := by
  intro call other new start
  have newBefore : state.find? call = none := by
    by_contra known
    exact (transition cancelled state event).known known new
  refine fits call other newBefore ?_
  have later : event.starts? call = none := by
    cases event with
    | start own ownKey =>
        refine if_neg fun same => ?_
        subst same
        exact start_known cancelled state own ownKey new
    | _ => rfl
  rw [keyIn?_cons, later, start, Option.none_or]

/-- A run and the run of the events of the calls for one key, side by side. -/
theorem Separate.run {mine : Nat → Prop} [DecidablePred mine] {key : String}
    {rename : Nat → Nat} {whole part : Calls ρ} (separate : Separate mine key rename whole part)
    (cancelled : ρ) (consistentWhole : Consistent whole) (consistentPart : Consistent part)
    (events : List (Event ρ)) (fits : Fits mine key whole events) :
    let own := events.filter fun event => mine event.call
    (whole.trace cancelled events).filter (fun entry => mine entry.1.call) =
        part.trace cancelled own ∧
      (∀ entry ∈ whole.trace cancelled events, ∀ effect ∈ entry.2,
        (mine effect.call ↔ mine entry.1.call)) ∧
      ∃ renamed, Separate mine key renamed (whole.run cancelled events).1
        (part.run cancelled own).1 := by
  induction events generalizing whole part rename with
  | nil => exact ⟨rfl, nofun, rename, separate⟩
  | cons event events ih =>
      have stepped := transition cancelled whole event
      have fitting {call : Nat} {other : String} (same : event = .start call other)
          (new : whole.find? call = none) : other = key ↔ mine call :=
        fits call other new (by rw [same, keyIn?_start])
      by_cases own : mine event.call
      · obtain ⟨same, renamed, next⟩ := separate.step_own cancelled consistentWhole consistentPart
          own fun call other start new => (fitting start new).mpr (by rwa [start] at own)
        have steppedPart := transition cancelled part event
        obtain ⟨traces, confined, final⟩ := ih next (consistentWhole.next stepped)
          (consistentPart.next steppedPart) (fits.next cancelled)
        have effects := separate.effects_own consistentPart own steppedPart
        rw [List.filter_cons_of_pos (by simpa using own)]
        refine ⟨?_, ?_, final⟩
        · rw [trace, List.filter_cons_of_pos (by simpa using own), traces, same]
          rfl
        · intro entry present effect caused
          rcases List.mem_cons.mp present with rfl | later
          · rw [same] at caused
            exact iff_of_true (effects effect caused) own
          · exact confined entry later effect caused
      · obtain ⟨next, effects⟩ := separate.step_foreign consistentWhole own
          (fun call other start new => mt (fitting start new).mp (by rwa [start] at own)) stepped
        obtain ⟨traces, confined, final⟩ := ih next (consistentWhole.next stepped)
          consistentPart (fits.next cancelled)
        rw [List.filter_cons_of_neg (by simpa using own)]
        refine ⟨?_, ?_, final⟩
        · rw [trace, List.filter_cons_of_neg (by simpa using own), traces]
        · intro entry present effect caused
          rcases List.mem_cons.mp present with rfl | later
          · exact iff_of_false (effects effect caused) own
          · exact confined entry later effect caused

/-- Among the effects of some entries those of certain entries are chosen by their calls. -/
theorem filter_effects (mine : Nat → Prop) [DecidablePred mine]
    {entries : List (Event ρ × List (Effect ρ))}
    (confined : ∀ entry ∈ entries, ∀ effect ∈ entry.2,
      (mine effect.call ↔ mine entry.1.call)) :
    (entries.flatMap Prod.snd).filter (fun effect => mine effect.call) =
      (entries.filter fun entry => mine entry.1.call).flatMap Prod.snd := by
  induction entries with
  | nil => rfl
  | cons entry entries ih =>
      obtain ⟨first, rest⟩ := List.forall_mem_cons.mp confined
      rw [List.flatMap_cons, List.filter_append, ih rest]
      by_cases own : mine entry.1.call
      · rw [List.filter_cons_of_pos (by simpa using own), List.flatMap_cons,
          List.filter_eq_self.mpr fun effect caused => by simpa [first effect caused] using own]
      · rw [List.filter_cons_of_neg (by simpa using own), List.filter_eq_nil_iff.mpr
          fun effect caused => by simpa [first effect caused] using own, List.nil_append]

/--
At any time of any run the calls for a key are where they would be if there were
no calls for other keys.  Their events have the same effects, in the same order,
and no other event has an effect on them.  So the same calls lead, the same join
the same leaders, the same computations are started, and the same calls end with
the same results or are dropped.
-/
theorem keys_independent (cancelled : ρ) (key : String) (before after : List (Event ρ)) :
    let keyOf := keyIn? (before ++ after)
    let own := before.filter fun event => keyOf event.call = some key
    let whole := (empty : Calls ρ).run cancelled before
    let part := (empty : Calls ρ).run cancelled own
    ((empty : Calls ρ).trace cancelled before).filter
        (fun entry => keyOf entry.1.call = some key) = (empty : Calls ρ).trace cancelled own ∧
      (∀ entry ∈ (empty : Calls ρ).trace cancelled before, ∀ effect ∈ entry.2,
        keyOf effect.call = keyOf entry.1.call) ∧
      whole.2.filter (fun effect => keyOf effect.call = some key) = part.2 ∧
      ∃ rename, Projection (fun call => keyOf call = some key) key rename whole.1 part.1 := by
  intro keyOf own whole part
  have fits (key : String) : Fits (fun call => keyOf call = some key) key empty before := by
    intro call other _ start
    have found : keyOf call = some other := by
      rw [show keyOf = keyIn? (before ++ after) from rfl, keyIn?, List.findSome?_append,
        ← keyIn?, start, Option.some_or]
    show other = key ↔ keyOf call = some key
    rw [found, Option.some_inj]
  have split (key : String) := (Separate.empty (ρ := ρ) (fun call => keyOf call = some key) key
    id).run cancelled .empty .empty before (fits key)
  obtain ⟨traces, confined, rename, separate⟩ := split key
  refine ⟨traces, ?_, ?_, rename, separate.toProjection⟩
  · intro entry present effect caused
    exact Option.ext fun other => (split other).2.1 entry present effect caused
  · rw [effects_run, effects_run, ← traces]
    exact filter_effects (keyOf · = some key) confined

/-- The leader of another key is dropped while a call waits for the key. -/
theorem keys_independent_dropped :
    let before : List (Event Nat) := [.start 0 "b", .start 1 "a", .start 2 "a", .drop 0]
    let after : List (Event Nat) := [.complete 1 5, .resume 2]
    let whole := (empty : Calls Nat).run 7 (before ++ after)
    let entry := (Event.complete 1 5, [Effect.finish 1 5, Effect.wake 2])
    whole.2.filter (fun effect => keyIn? (before ++ after) effect.call = some "a") =
        [.invoke 1, .finish 1 5, .wake 2, .finish 2 5] ∧
      (entry ∈ (empty : Calls Nat).trace 7 (before ++ after) ∧ .wake 2 ∈ entry.2 ∧
        keyIn? (before ++ after) 2 = keyIn? (before ++ after) 1) ∧
      ∃ rename : Nat → Nat,
        ((empty : Calls Nat).run 7 before).1.find? 2 = some ⟨"a", .waiting (rename 0)⟩ := by
  intro before after whole entry
  obtain ⟨-, confined, effects, -⟩ := keys_independent 7 "a" (before ++ after) []
  obtain ⟨-, -, -, rename, projection⟩ := keys_independent 7 "a" before after
  rw [List.append_nil] at confined effects
  have present : entry ∈ (empty : Calls Nat).trace 7 (before ++ after) := by decide
  have woken : .wake 2 ∈ entry.2 := by decide
  refine ⟨effects.trans (by decide), ⟨present, woken, ?_⟩, rename, ?_⟩
  · exact confined entry present _ woken
  · exact projection.calls 2 (by decide)

end Calls

end ReadThrough.Flight
