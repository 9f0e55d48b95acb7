import ReadThrough.Proofs.Cluster.Moves
import ReadThrough.Proofs.Group.Questions

/-!
# What an event in a group does to the cluster

Outside of its group, an event has one of three consequences: none, a fetch of
its call that sets out, or the end of its call.  The cluster follows each event
by the corresponding change of its calls and fetches.
-/

namespace ReadThrough.Group

/-- The effect reaches beyond the group: a fetch sets out or a call ends. -/
def Effect.outward : Effect → Bool
  | .fetch .. | .finish .. => true
  | .load .. | .wake _ | .log _ => false

def outwardOf (effects : List Effect) : List Effect := effects.filter Effect.outward

theorem outwardOf_append (first second : List Effect) :
    outwardOf (first ++ second) = outwardOf first ++ outwardOf second :=
  List.filter_append ..

theorem outwardOf_inward {effects : List Effect}
    (inward : ∀ effect ∈ effects, effect.outward = false) : outwardOf effects = [] :=
  List.filter_eq_nil_iff.mpr fun effect present => by simp [inward effect present]

theorem outwardOf_wakes (woken : List Nat) : outwardOf (woken.map .wake) = [] :=
  outwardOf_inward (by simp [Effect.outward])

theorem inward_of_outwardOf {effects : List Effect} (nothing : outwardOf effects = [])
    {effect : Effect} (present : effect ∈ effects) : effect.outward = false := by
  simpa using List.filter_eq_nil_iff.mp nothing effect present

/-- The event is not ignored: its call is there, or the event makes it. -/
def Event.Concerns (group : Group) (event : Event) : Prop :=
  group.caller? event.call ≠ none ∨ ∃ request, event.Opens group request

/-- What an event brings about beyond its group. -/
inductive Upshot (group : Group) (event : Event) (next : Group) : List Effect → Prop where
  /-- The call remains, unless it is dropped. -/
  | nothing (remains : event.Concerns group → event ≠ .drop event.call →
      next.caller? event.call ≠ none) : Upshot group event next []
  | fetch {key address : String} {ticket : Nat}
      (found : next.caller? event.call = some ⟨key, .fetching ticket address⟩) :
      Upshot group event next [.fetch event.call address key]
  | finish {outcome : Outcome} (gone : next.caller? event.call = none) :
      Upshot group event next [.finish event.call outcome]

theorem Seeks.inward {choose : Choice} {group : Group} {event : Event} {key : String}
    {lookup : Option Nat} {base : Group} {first : List Effect}
    (seeks : Seeks choose group event key lookup base first) : outwardOf first = [] := by
  cases seeks with
  | lookup | peer | failed => exact outwardOf_inward (by simp [Effect.outward, fetchReport])

theorem Upshot.of_stage {group : Group} {event : Event} {base : Group} {key : String}
    {stage : Stage} : Upshot group event (base.setStage event.call key stage) [] :=
  .nothing fun _ _ => by simp [caller?_setStage_self]

/-- A call that ends tells the cluster so, unless it is dropped. -/
theorem Ends.upshot {group : Group} {event : Event} {key : String} {lookup : Option Nat}
    {outcome : Outcome} {base next : Group} {told : List Effect}
    (ends : Ends group event key lookup outcome base told)
    (gone : next.caller? event.call = none) : Upshot group event next (outwardOf told) := by
  cases ends with
  | fetched | waited => exact .finish gone
  | loaded =>
      rw [outwardOf_append, outwardOf_wakes]
      exact .finish gone
  | dropFetch | dropWait => exact .nothing fun _ goesOn => absurd rfl goesOn
  | dropRun =>
      rw [outwardOf_wakes]
      exact .nothing fun _ goesOn => absurd rfl goesOn

theorem Transition.upshot {choose : Choice} {group next : Group} {event : Event}
    {effects : List Effect} (transition : Transition choose group event next effects) :
    Upshot group event next (outwardOf effects) := by
  cases transition with
  | ignore stale late =>
      refine .nothing fun concerns _ => ?_
      rcases concerns with known | ⟨request, opens⟩
      · exact known
      · exact absurd opens (late request)
  | refuse opens | hit opens => exact .finish opens.new
  | join => exact .of_stage
  | share => exact .finish (caller?_forget_self _ _)
  | leave => exact .nothing fun _ goesOn => absurd rfl goesOn
  | fetch =>
      rw [outwardOf_append, outwardOf_inward (by simp [Effect.outward])]
      exact .fetch (caller?_setStage_self _ _ _ _)
  | wait seeks =>
      rw [seeks.inward]
      exact .of_stage
  | load seeks =>
      rw [outwardOf_append, seeks.inward]
      exact .of_stage
  | @conclude event key lookup outcome base told ends =>
      obtain ⟨woken, same⟩ := effects_settleLookup (base.forget event.call) key outcome lookup
      rw [outwardOf_append, same, outwardOf_wakes, List.append_nil]
      exact ends.upshot (caller?_withdrawn_self _ _ _ _ _)

end ReadThrough.Group

namespace ReadThrough.Cluster

/-- Only the effects that reach beyond the group change the cluster. -/
theorem absorbAll_outward (member : Nat) (cluster : Cluster) (effects : List Group.Effect) :
    (absorbAll member cluster effects).1 =
      (absorbAll member cluster (Group.outwardOf effects)).1 := by
  induction effects generalizing cluster with
  | nil => rfl
  | cons effect effects ih =>
      cases effect with
      | fetch | finish => exact ih _
      | load | wake | log => exact ih cluster

theorem stepMember_eq {cluster : Cluster} {member : Nat} {home : Member}
    (found : cluster.members[member]? = some home) (event : Group.Event) :
    cluster.stepMember member event = absorbAll member
      (cluster.withGroup member home (home.group.step (cluster.choiceOf home) event).1)
      (home.group.step (cluster.choiceOf home) event).2 := by
  rw [stepMember, found]
  rfl

/-- What an event does to the cluster, by the next state of the group and the outward effects. -/
inductive Reaction (cluster : Cluster) (member : Nat) (home : Member) (event : Group.Event)
    (group : Group) : List Group.Effect → Cluster → Prop where
  | quiet (remains : event.Concerns home.group → event ≠ .drop event.call →
      group.caller? event.call ≠ none) :
      Reaction cluster member home event group [] (cluster.withGroup member home group)
  | fetches {key address : String} {ticket : Nat}
      (found : group.caller? event.call = some ⟨key, .fetching ticket address⟩) :
      Reaction cluster member home event group [.fetch event.call address key]
        ((cluster.withGroup member home group).setTransit event.call
          (.travelling address group.name key))
  | ends {outcome : Outcome} (gone : group.caller? event.call = none) :
      Reaction cluster member home event group [.finish event.call outcome]
        ((cluster.withGroup member home group).conclude event.call outcome).1

theorem reaction {cluster : Cluster} {member : Nat} {home : Member}
    (found : cluster.members[member]? = some home) (event : Group.Event) :
    Reaction cluster member home event (home.group.step (cluster.choiceOf home) event).1
      (Group.outwardOf (home.group.step (cluster.choiceOf home) event).2)
      (cluster.stepMember member event).1 := by
  have stored (group : Group) :
      (cluster.withGroup member home group).members[member]? = some { home with group } :=
    (members_withGroup found group member).trans (if_pos rfl)
  have upshot := (Group.transition (cluster.choiceOf home) home.group event).upshot
  rw [stepMember_eq found, absorbAll_outward]
  generalize Group.outwardOf (home.group.step (cluster.choiceOf home) event).2 = outward
    at upshot ⊢
  cases upshot with
  | nothing remains => exact .quiet remains
  | fetch fetching =>
      rw [absorbAll_cons, absorb, stored]
      exact .fetches fetching
  | finish gone => exact .ends gone

/-! ## The end of a call -/

section

variable {cluster : Cluster} {call member : Nat} {fetcher : Option Nat}

theorem get?_calls_conclude (cluster : Cluster) (call : Nat) (outcome : Outcome) (other : Nat) :
    Ordered.get? other (cluster.conclude call outcome).1.calls =
      if other = call then none else Ordered.get? other cluster.calls := by
  rw [conclude]
  split
  · exact get?_calls_forget cluster call other
  · exact get?_calls_forget cluster call other

/-- The fetch that a call answers is answered when the call ends. -/
theorem get?_transits_conclude (own : Ordered.get? call cluster.calls = some ⟨member, fetcher⟩)
    (outcome : Outcome) (other : Nat) :
    Ordered.get? other (cluster.conclude call outcome).1.transits =
      if fetcher = some other then some (.answered (present outcome))
      else if other = call then none else Ordered.get? other cluster.transits := by
  rw [conclude, own]
  cases fetcher with
  | none => simp [get?_transits_forget]
  | some source =>
      simp only [answer, get?_setTransit, get?_transits_forget, Option.some.injEq]
      simp [eq_comm]

end

/-! ## What an event leaves as it is -/

section

variable {cluster result : Cluster} {member : Nat} {home : Member} {event : Group.Event}
  {group : Group} {outward : List Group.Effect}

/-- Outside of its group, an event changes calls and fetches only. -/
theorem Reaction.kept (reaction : Reaction cluster member home event group outward result) :
    result.nodes = cluster.nodes ∧ result.down = cluster.down ∧
      result.issued = cluster.issued ∧
        result.members = (cluster.withGroup member home group).members := by
  cases reaction with
  | quiet | fetches => exact ⟨rfl, rfl, rfl, rfl⟩
  | ends =>
      rw [conclude]
      split <;> exact ⟨rfl, rfl, rfl, rfl⟩

/-- The calls that remain are as they were. -/
theorem Reaction.calls (reaction : Reaction cluster member home event group outward result)
    {call : Nat} {info : Call} (present : Ordered.get? call result.calls = some info) :
    Ordered.get? call cluster.calls = some info := by
  cases reaction with
  | quiet | fetches => exact present
  | ends =>
      rw [get?_calls_conclude] at present
      split at present
      · cases present
      · exact present

end

end ReadThrough.Cluster
