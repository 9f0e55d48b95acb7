import ReadThrough.Cluster.Simulation
import ReadThrough.Proofs.Agenda
import ReadThrough.Proofs.Cluster.Moves
import ReadThrough.Proofs.Ordered

/-!
# A call and what follows from it

A simulated call is a run of the cluster that begins with this call.  If the
call ends, then with the outcome that it has in this run.
-/

namespace ReadThrough.Cluster

namespace Timeline

/-- Whether an activity follows from others, so that it neither makes a call nor gives one up. -/
def Activity.Follows : Activity → Prop
  | .lookUp _ _ _ | .event _ => True
  | .start _ | .drop _ => False

/-- How the only planned call ended, which has the given number in the cluster. -/
structure Noted (call : Nat) (effects : List Effect) (before after : State)
    (consequences : List (Consequence Activity)) : Prop where
  cluster : after.cluster = before.cluster
  planned : after.planned = before.planned
  ended : ∀ ended, Ordered.get? 0 after.ends = some ended →
    Ordered.get? 0 before.ends = some ended ∨
      ∃ outcome, ended.outcome = some outcome ∧ Effect.finish call outcome ∈ effects
  follow : ∀ consequence ∈ consequences, consequence.activity.Follows

theorem follows_after {turn : Turn Activity} {delay : Nat} {activity : Activity}
    (follows : activity.Follows) : (after turn delay activity).activity.Follows := by
  rw [after]
  split <;> exact follows

variable {around : Surroundings} {turn : Turn Activity} {state : State} {call : Nat}

theorem cluster_noteEnd (state : State) (index : Nat) (ended : TimedEnd) :
    (state.noteEnd index ended).cluster = state.cluster := by
  rw [State.noteEnd]
  split <;> rfl

theorem planned_noteEnd (state : State) (index : Nat) (ended : TimedEnd) :
    (state.noteEnd index ended).planned = state.planned := by
  rw [State.noteEnd]
  split <;> rfl

/-- The end of a call is noted once. -/
theorem get?_noteEnd {ended found : TimedEnd}
    (present : Ordered.get? 0 (state.noteEnd 0 ended).ends = some found) :
    Ordered.get? 0 state.ends = some found ∨ found = ended := by
  rw [State.noteEnd] at present
  split at present
  · exact .inl present
  · rw [Ordered.get?_put, if_pos rfl, Option.some.injEq] at present
    exact .inr present.symm

theorem noted_note (around : Surroundings) (turn : Turn Activity)
    (only : state.planned = [(call, 0)]) (effect : Effect) :
    Noted call [effect] state (note around turn state effect).1
      (note around turn state effect).2 := by
  cases effect with
  | fetch fetcher address group key =>
      simp only [note]
      split <;>
        · refine ⟨rfl, rfl, fun _ => .inl, ?_⟩
          rw [List.forall_mem_singleton]
          exact follows_after True.intro
  | load loader member key =>
      refine ⟨rfl, rfl, fun _ => .inl, ?_⟩
      rw [note, List.forall_mem_singleton]
      exact follows_after True.intro
  | reply fetcher =>
      refine ⟨rfl, rfl, fun _ => .inl, ?_⟩
      rw [note, List.forall_mem_singleton]
      exact True.intro
  | wake waiting =>
      refine ⟨rfl, rfl, fun _ => .inl, fun consequence present => ?_⟩
      obtain ⟨task, -, rfl⟩ := Option.map_eq_some_iff.mp (Option.mem_toList.mp present)
      exact True.intro
  | finish finished outcome =>
      simp only [note, only, Ordered.get?_cons, Ordered.get?_nil]
      by_cases own : call = finished
      · rw [if_pos own]
        refine ⟨cluster_noteEnd .., planned_noteEnd .., fun ended found => ?_,
          List.forall_mem_nil _⟩
        rcases get?_noteEnd found with before | rfl
        · exact .inl before
        · exact .inr ⟨outcome, rfl, own ▸ List.mem_singleton_self _⟩
      · rw [if_neg own]
        exact ⟨rfl, rfl, fun _ => .inl, List.forall_mem_nil _⟩
  | log entry => exact ⟨rfl, rfl, fun _ => .inl, List.forall_mem_nil _⟩

theorem noted_noteAll (around : Surroundings) (turn : Turn Activity)
    (only : state.planned = [(call, 0)]) (effects : List Effect) :
    Noted call effects state (noteAll around turn state effects).1
      (noteAll around turn state effects).2 := by
  induction effects generalizing state with
  | nil => exact ⟨rfl, rfl, fun _ => .inl, List.forall_mem_nil _⟩
  | cons effect effects ih =>
      have first := noted_note around turn only effect
      have others := ih (first.planned.trans only)
      refine ⟨others.cluster.trans first.cluster, others.planned.trans first.planned,
        fun ended found => ?_, fun consequence present => ?_⟩
      · rcases others.ended ended found with earlier | ⟨outcome, same, finished⟩
        · rcases first.ended ended earlier with before | ⟨outcome, same, finished⟩
          · exact .inl before
          · exact .inr ⟨outcome, same, List.mem_cons.mpr (.inl (List.mem_singleton.mp finished))⟩
        · exact .inr ⟨outcome, same, List.mem_cons_of_mem effect finished⟩
      · rcases List.mem_append.mp present with own | later
        · exact first.follow consequence own
        · exact others.follow consequence later

/-- What was seen of the only planned call tells what the events in a cluster brought about. -/
structure Witnesses (cluster : Cluster) (events : List Event) (state : State) : Prop where
  reached : state.cluster = (cluster.play (events.map .event)).1
  planned : state.planned = [(cluster.issued, 0)]
  ended : ∀ ended, Ordered.get? 0 state.ends = some ended →
    ∃ outcome, ended.outcome = some outcome ∧
      Effect.finish cluster.issued outcome ∈ (cluster.play (events.map .event)).2

variable {cluster : Cluster} {events : List Event}

theorem witnesses_happen (around : Surroundings) (turn : Turn Activity)
    (witnesses : Witnesses cluster events state) (event : Event) :
    Witnesses cluster (events ++ [event]) (happen around turn state event).1 ∧
      ∀ consequence ∈ (happen around turn state event).2, consequence.activity.Follows := by
  have planned : ({ state with cluster := (state.cluster.step event).1 } : State).planned =
      [(cluster.issued, 0)] := witnesses.planned
  have noted := noted_noteAll around turn planned (state.cluster.step event).2
  have played : cluster.play ((events ++ [event]).map .event) =
      ((state.cluster.step event).1,
        (cluster.play (events.map .event)).2 ++ (state.cluster.step event).2) := by
    rw [List.map_append, play_append, ← witnesses.reached]
    simp [play, make]
  refine ⟨⟨?_, noted.planned.trans witnesses.planned, fun ended found => ?_⟩, noted.follow⟩
  · rw [played]
    exact noted.cluster
  · rw [played]
    rcases noted.ended ended found with before | ⟨outcome, same, finished⟩
    · obtain ⟨outcome, same, finished⟩ := witnesses.ended ended before
      exact ⟨outcome, same, List.mem_append_left _ finished⟩
    · exact ⟨outcome, same, List.mem_append_right _ finished⟩

theorem witnesses_perform (plan : List TimedCall) {activity : Activity}
    (follows : activity.Follows) (witnesses : Witnesses cluster events state) :
    (∃ more, Witnesses cluster (events ++ more) (perform around plan turn activity state).1) ∧
      ∀ consequence ∈ (perform around plan turn activity state).2,
        consequence.activity.Follows := by
  cases activity with
  | start | drop => exact follows.elim
  | event event =>
      obtain ⟨further, follow⟩ := witnesses_happen around turn witnesses event
      exact ⟨⟨[event], further⟩, follow⟩
  | lookUp loader member key =>
      rw [perform]
      split
      · have same : Witnesses cluster events { state with lookedUp := state.lookedUp ++ [key] } :=
          ⟨witnesses.reached, witnesses.planned, witnesses.ended⟩
        obtain ⟨further, follow⟩ := witnesses_happen around turn same
          (.loaded loader ((around.sources[member]?.getD .empty).lookup key))
        exact ⟨⟨[_], further⟩, follow⟩
      · exact ⟨⟨[], by rwa [List.append_nil]⟩, List.forall_mem_nil _⟩

def opening (cluster : Cluster) : State :=
  { State.start cluster with planned := [(cluster.issued, 0)] }

def firstTurn : Turn Activity := ⟨0, 0, [], none⟩

/-- The only planned call is made at once, and everything else follows from it. -/
theorem run_singleton (around : Surroundings) (cluster : Cluster) (call : TimedCall)
    (now : call.start = 0) (kept : call.dropAt = none) :
    run around cluster [call] =
      Agenda.run (perform around [call]) (activityLimit - 1)
        (Agenda.follow firstTurn []
          (happen around firstTurn (opening cluster) (eventOf call)).2)
        (happen around firstTurn (opening cluster) (eventOf call)).1 := by
  have started : perform around [call] firstTurn (.start 0) (.start cluster) =
      happen around firstTurn (opening cluster) (eventOf call) := by
    simp [perform, limitOf, now, kept, opening, State.start, Ordered.put]
  rw [← started]
  rfl

theorem witnesses_run (around : Surroundings) (cluster : Cluster) (call : TimedCall)
    (now : call.start = 0) (kept : call.dropAt = none) :
    ∃ events, Witnesses cluster (eventOf call :: events) (run around cluster [call]) := by
  have nothing : Witnesses cluster [] (opening cluster) := ⟨rfl, rfl, nofun⟩
  obtain ⟨first, follow⟩ := witnesses_happen around firstTurn nothing (eventOf call)
  have planned : (Agenda.follow firstTurn []
      (happen around firstTurn (opening cluster) (eventOf call)).2).Holds Activity.Follows :=
    Agenda.holds_follow ⟨List.forall_mem_nil _, nofun⟩ (List.forall_mem_nil _) follow
  rw [run_singleton around cluster call now kept]
  refine Agenda.run_keeps
    (motive := fun state => ∃ events, Witnesses cluster (eventOf call :: events) state)
    (fun turn activity state follows witnessed => ?_) _ planned ⟨[], first⟩
  obtain ⟨events, witnesses⟩ := witnessed
  obtain ⟨⟨more, further⟩, follow⟩ := witnesses_perform [call] follows witnesses
  exact ⟨⟨events ++ more, further⟩, follow⟩

end Timeline

/--
A run of the cluster that begins with the given event, which makes a call,
leads to another state of the cluster and to the outcome of this call, if it
has ended.
-/
def Ensues (cluster : Cluster) (first : Event) (next : Cluster) (outcome? : Option Outcome) :
    Prop :=
  ∃ events : List Event,
    next = (cluster.play ((first :: events).map .event)).1 ∧
    ∀ outcome, outcome? = some outcome →
      Effect.finish cluster.issued outcome ∈ (cluster.play ((first :: events).map .event)).2

/-- A simulated call is a run that begins with this call. -/
theorem Simulation.ensues_call (simulation : Simulation) (node : Nat) (group key : String)
    (forPeer : Bool) :
    let (next, ended, _) := simulation.call node group key forPeer
    simulation.cluster.Ensues (Timeline.eventOf ⟨node, group, key, forPeer, 0, none⟩)
      next.cluster (ended.bind TimedEnd.outcome) := by
  obtain ⟨events, witnesses⟩ := Timeline.witnesses_run simulation.around simulation.cluster
    ⟨node, group, key, forPeer, 0, none⟩ rfl rfl
  refine ⟨events, witnesses.reached, fun outcome finished => ?_⟩
  obtain ⟨ended, found, same⟩ := Option.bind_eq_some_iff.mp finished
  obtain ⟨other, again, effect⟩ := witnesses.ended ended found
  rw [same] at again
  cases again
  exact effect

end ReadThrough.Cluster
