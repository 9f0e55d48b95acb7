import ReadThrough.Proofs.Group.Questions
import ReadThrough.Proofs.Since

/-!
# The ledger of questions

A question to another node or to the data source is open until it is answered,
with a value or with an error, or given up together with the call that asked it.
So the questions of a kind that were asked are those that are open and those
that were answered or given up, in any state of a group.
-/

namespace ReadThrough.Group

/-! ## Counting events -/

def Action.isOf (kind : Group → Event → Bool) (group : Group) : Action → Bool
  | .attach => false
  | .step _ event => kind group event

/-- How many events of the run are of a kind, each told from the group in which it happens. -/
def count (start : Group) (kind : Group → Event → Bool) (moves : List Action) : Nat :=
  tally (fun group action => (group.advance action).1) (Action.isOf kind) start moves

theorem run_eq_foldl (start : Group) (moves : List Action) :
    (start.run moves).1 = moves.foldl (fun group action => (group.advance action).1) start := by
  induction moves generalizing start with
  | nil => rfl
  | cons action moves ih => exact ih (start.advance action).1

theorem count_concat (start : Group) (kind : Group → Event → Bool) (moves : List Action)
    (last : Action) :
    start.count kind (moves ++ [last]) =
      start.count kind moves + (last.isOf kind (start.run moves).1).toNat := by
  rw [count, tally_concat, ← run_eq_foldl]
  rfl

/-- A number that grows by one with every event of a kind, and not otherwise, counts them. -/
theorem count_run {number : Group → Nat} {kind : Group → Event → Bool} (start : Group)
    (attached : ∀ group attached, number (group.setAttached attached) = number group)
    (counts : ∀ choose group event next effects, Transition choose group event next effects →
      number next = number group + (kind group event).toNat) (moves : List Action) :
    number (start.run moves).1 = number start + start.count kind moves := by
  induction moves using run_induction start with
  | nil => rfl
  | attach history attachment same ih =>
      rw [same, attached, ih, count_concat]
      rfl
  | step history choose event stepped ih =>
      rw [counts _ _ _ _ _ stepped, ih, count_concat, Nat.add_assoc]
      rfl

/-! ## How questions end -/

def Effect.isFetch : Effect → Bool
  | .fetch .. => true
  | .load .. | .wake _ | .finish .. | .log _ => false

def Effect.isLoad : Effect → Bool
  | .load .. => true
  | .fetch .. | .wake _ | .finish .. | .log _ => false

inductive Ending where
  | value
  | error
  | givenUp
  deriving DecidableEq, Repr

def Event.ending? : Event → Option Ending
  | .fetched _ _ (.ok _) | .loaded _ (.ok _) => some .value
  | .fetched _ _ (.error _) | .loaded _ (.error _) => some .error
  | .drop _ => some .givenUp
  | .get .. | .getForPeer .. | .resume _ => none

/-- The question that an event ends. -/
def Event.closed? (group : Group) (event : Event) : Option Effect :=
  (group.asked? event.call).filter event.closes

def Event.ends (kind : Effect → Bool) (ending : Ending) (group : Group) (event : Event) : Bool :=
  (event.closed? group).any kind && event.ending? = some ending

/-- How many questions of a kind are open. -/
def pending (group : Group) (kind : Effect → Bool) : Nat :=
  group.callers.countP fun entry => (Caller.asked? entry.1 entry.2).any kind

section Endings

variable {group : Group} {event : Event} {kind : Effect → Bool} {ending : Ending}

theorem ends_of_nothing (nothing : event.closed? group = none) :
    event.ends kind ending group = false := by
  rw [Event.ends, nothing]
  rfl

theorem closed?_of_unasked (unasked : group.asked? event.call = none) :
    event.closed? group = none := by
  rw [Event.closed?, unasked]
  rfl

theorem closed?_of_stale
    (stale : ∀ effect, group.asked? event.call = some effect → event.closes effect = false) :
    event.closed? group = none := by
  refine Option.filter_eq_none_iff.mpr fun effect asked => ?_
  rw [stale effect asked]
  exact Bool.false_ne_true

theorem closed?_of_found {caller : Caller} (found : group.caller? event.call = some caller)
    {effect : Effect} (asked : caller.asked? event.call = some effect)
    (closes : event.closes effect = true) : event.closed? group = some effect := by
  rw [Event.closed?, asked?_of_found found, asked]
  exact Option.filter_some_pos closes

theorem ends_of_drop {call : Nat} (answered : ending ≠ .givenUp) :
    Event.ends kind ending group (.drop call) = false := by
  have other : Event.ending? (.drop call) ≠ some ending := fun same =>
    answered (Option.some.inj same).symm
  rw [Event.ends, decide_eq_false other, Bool.and_false]

theorem ending?_of_closes {effect : Effect} (closes : event.closes effect = true) :
    ∃ ending, event.ending? = some ending := by
  cases event with
  | fetched call elapsed result | loaded call result =>
      cases result <;> exact ⟨_, rfl⟩
  | drop call => exact ⟨.givenUp, rfl⟩
  | get | getForPeer | resume => cases closes

/-- A question ends in exactly one way. -/
theorem toNat_closed? (kind : Effect → Bool) (group : Group) (event : Event) :
    ((event.closed? group).any kind).toNat =
      (event.ends kind .value group).toNat + (event.ends kind .error group).toNat +
        (event.ends kind .givenUp group).toNat := by
  cases closed : event.closed? group with
  | none => simp [Event.ends, closed]
  | some effect =>
      obtain ⟨ending, ends⟩ := ending?_of_closes (Option.filter_eq_some_iff.mp closed).2
      cases kind effect <;> cases ending <;> simp [Event.ends, closed, ends]

end Endings

/-! ## Open questions -/

/-- The calls are kept in ascending order, so each has one number only. -/
theorem Transition.ascending {choose : Choice} {group next : Group} {event : Event}
    {effects : List Effect} (transition : Transition choose group event next effects)
    (ascending : Ordered.Ascending group.callers) : Ordered.Ascending next.callers := by
  cases transition with
  | ignore | refuse | hit => exact ascending
  | join | fetch => exact ascending.put _ _
  | share | leave => exact ascending.filter _
  | wait seeks | load seeks =>
      have before : Ordered.Ascending _ := seeks.callers_base ▸ ascending
      exact before.put _ _
  | conclude ends =>
      have before : Ordered.Ascending _ := ends.callers_base ▸ ascending
      rw [callers_settleLookup]
      exact before.filter _

theorem pending_split {group : Group} (ascending : Ordered.Ascending group.callers)
    (kind : Effect → Bool) (call : Nat) :
    group.pending kind =
      (group.forget call).pending kind + ((group.asked? call).any kind).toNat := by
  rw [pending, ascending.countP_split call, asked?, Option.any_bind]
  rfl

/-- The other calls have the same open questions as before. -/
theorem Transition.pending_others {choose : Choice} {group next : Group} {event : Event}
    {effects : List Effect} (transition : Transition choose group event next effects)
    (ascending : Ordered.Ascending group.callers) (kind : Effect → Bool) :
    (next.forget event.call).pending kind = (group.forget event.call).pending kind := by
  have same : (next.forget event.call).callers = (group.forget event.call).callers := by
    refine Ordered.Ascending.ext ((transition.ascending ascending).filter _)
      (ascending.filter _) fun other => ?_
    have after := caller?_forget next event.call other
    have before := caller?_forget group event.call other
    rw [caller?] at after before
    rw [after, before]
    split
    · rfl
    · rename_i different
      exact transition.frame different
  rw [pending, same]
  rfl

/-! ## One event -/

section Steps

variable {choose : Choice} {group next : Group} {event : Event} {effects : List Effect}

/-- The call of an event asks once its last question has ended, or goes on as before. -/
theorem Transition.own_question (transition : Transition choose group event next effects) :
    (∃ question, questionsOf event.call effects = [question] ∧
        next.asked? event.call = some question ∧
        event.closed? group = group.asked? event.call) ∨
      questionsOf event.call effects = [] ∧
        next.asked? event.call =
          (group.asked? event.call).filter fun effect => !event.closes effect := by
  have asking := transition.questions
  have waits {question : Effect} (asked : question ∈ questionsOf event.call effects) :
      next.asked? event.call = some question := by
    obtain ⟨present, asker⟩ := mem_questionsOf.mp asked
    exact (transition.asks present asker).2
  generalize same : questionsOf event.call effects = questions at asking
  cases asking with
  | nobody =>
      refine Or.inr ⟨rfl, Option.ext fun effect => ?_⟩
      rw [transition.asked?_iff, Option.filter_eq_some_iff, ← mem_questionsOf, same]
      simp
  | node misses =>
      have unasked := asked?_of_new misses.new
      exact Or.inl ⟨_, rfl, waits (by simp [same]),
        (closed?_of_unasked unasked).trans unasked.symm⟩
  | source seeks =>
      refine Or.inl ⟨_, rfl, waits (by simp [same]), ?_⟩
      rw [Event.closed?]
      cases asked : group.asked? event.call with
      | none => rfl
      | some effect => exact Option.filter_some_pos (seeks.closes asked)

variable {kind : Effect → Bool} (asks : ∀ effect, effect.asker? = none → kind effect = false)

include asks

theorem countP_of_silent (silent : ∀ effect ∈ effects, effect.asker? = none) :
    effects.countP kind = 0 := by
  refine List.countP_eq_zero.mpr fun effect present => ?_
  rw [asks effect (silent effect present)]
  exact Bool.false_ne_true

/-- What an event asks, it asks on behalf of its call. -/
theorem Transition.countP_questionsOf (transition : Transition choose group event next effects) :
    (questionsOf event.call effects).countP kind = effects.countP kind := by
  rw [questionsOf, List.countP_filter]
  refine List.countP_congr fun effect present => ?_
  rw [Bool.and_eq_true, decide_eq_true_eq, and_iff_left_iff_imp]
  intro counted
  cases asker : effect.asker? with
  | none => cases (asks effect asker).symm.trans counted
  | some call => rw [(transition.asks present asker).1]

/-- What is asked is open, and an open question stays open unless the event ends it. -/
theorem Transition.pending (transition : Transition choose group event next effects)
    (ascending : Ordered.Ascending group.callers) :
    next.pending kind + ((event.closed? group).any kind).toNat =
      group.pending kind + effects.countP kind := by
  -- The other calls keep their questions, so that only those of one call have to balance.
  have own : ((next.asked? event.call).any kind).toNat +
        ((event.closed? group).any kind).toNat =
      ((group.asked? event.call).any kind).toNat + effects.countP kind := by
    rw [← transition.countP_questionsOf asks]
    rcases transition.own_question with ⟨question, same, waits, closed⟩ | ⟨same, waits⟩
    · rw [same, waits, closed, List.countP_singleton, Option.any_some, Nat.add_comm]
      cases kind question <;> rfl
    · rw [same, waits, Event.closed?, List.countP_nil]
      cases group.asked? event.call with
      | none => rfl
      | some effect => cases closes : event.closes effect <;> simp [closes]
  rw [pending_split (transition.ascending ascending) kind event.call,
    pending_split ascending kind event.call, transition.pending_others ascending]
  omega

end Steps

/-! ## Runs -/

theorem ascending_run (name : String) (budget : Nat) (moves : List Action) :
    Ordered.Ascending ((empty name budget).run moves).1.callers := by
  induction moves using run_induction (empty name budget) with
  | nil => exact .nil
  | attach history attached same ih =>
      rw [same]
      exact ih
  | step history choose event stepped ih => exact stepped.ascending ih

/-- The questions of a kind that were asked are open, or were answered or given up. -/
theorem asked_run {kind : Effect → Bool}
    (asks : ∀ effect, effect.asker? = none → kind effect = false) (name : String) (budget : Nat)
    (moves : List Action) :
    let start := empty name budget
    (start.run moves).2.countP kind =
      (start.run moves).1.pending kind + start.count (Event.ends kind .value) moves +
        start.count (Event.ends kind .error) moves +
        start.count (Event.ends kind .givenUp) moves := by
  intro start
  induction moves using run_induction start with
  | nil => rfl
  | attach history attached same ih =>
      have kept : (start.run (history ++ [.attach])).2 = (start.run history).2 := by
        rw [run_concat, effects_attach, List.append_nil]
      rw [same, kept, count_concat, count_concat, count_concat]
      exact ih
  | step history choose event stepped ih =>
      have balance := stepped.pending asks (ascending_run name budget history)
      have ending := toNat_closed? kind (start.run history).1 event
      have more : (start.run (history ++ [.step choose event])).2 =
          (start.run history).2 ++ ((start.run history).1.step choose event).2 := by
        rw [run_concat]
        rfl
      rw [more, List.countP_append, count_concat, count_concat, count_concat]
      simp only [Action.isOf]
      omega

end ReadThrough.Group
