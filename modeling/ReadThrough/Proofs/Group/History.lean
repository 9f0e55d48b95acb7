import ReadThrough.Proofs.Group.Changes
import ReadThrough.Proofs.Since

/-!
# Runs of a group

What a group does, from the start to a moment, is told by the actions up to
then.  A call is the last request that was made under its number; what the
group has asked for is outstanding until it is answered or its call is dropped.
The state of a call agrees with this: it waits for an answer exactly if one is
outstanding on its behalf.
-/

namespace ReadThrough.Group

/-- What a group takes part in; other nodes are chosen in a way that may vary. -/
inductive Action where
  /-- The group is told to ask for the node to which a key belongs. -/
  | attach
  | step (choose : Choice) (event : Event)

def advance (group : Group) : Action → Group × List Effect
  | .attach =>
    match group.attach with
    | .ok attached => (attached, [])
    | .error _ => (group, [])
  | .step choose event => group.step choose event

def run (group : Group) : List Action → Group × List Effect
  | [] => (group, [])
  | action :: actions =>
    let (next, effects) := group.advance action
    let (final, more) := next.run actions
    (final, effects ++ more)

theorem run_concat (start : Group) (history : List Action) (action : Action) :
    start.run (history ++ [action]) =
      (((start.run history).1.advance action).1,
        (start.run history).2 ++ ((start.run history).1.advance action).2) := by
  induction history generalizing start with
  | nil => simp [run]
  | cons first history ih => simp [run, ih]

/-! ## Requests and questions -/

/-- The action makes a request under a number that no call has. -/
def Action.Opens (group : Group) (call : Nat) (request : Request) : Action → Prop
  | .attach => False
  | .step _ event => event.call = call ∧ event.Opens group request

/-- The action answers a question, or drops the call that asked it. -/
def Action.closes (effect : Effect) : Action → Bool
  | .attach => false
  | .step _ event => event.closes effect

section Past

variable (start : Group) (moves : List Action)

/-- The request is the last one under its number. -/
def Made (call : Nat) (request : Request) : Prop :=
  Since (fun before action => action.Opens (start.run before).1 call request)
    (fun before action => ∀ other, ¬ action.Opens (start.run before).1 call other) moves

/-- The question was asked, has not been answered, and its call was not dropped. -/
def Outstanding (question : Effect) : Prop :=
  Since (fun before action => question ∈ ((start.run before).1.advance action).2)
    (fun _ action => action.closes question = false) moves

variable {start} {moves}

/-- A call that has not ended keeps its request. -/
theorem Made.keep {call : Nat} {request : Request} (made : Made start moves call request)
    {caller : Caller} (found : (start.run moves).1.caller? call = some caller) (action : Action) :
    Made start (moves ++ [action]) call request := by
  refine made.later fun other opens => ?_
  cases action with
  | attach => exact opens
  | step choose event =>
      obtain ⟨rfl, -, new⟩ := opens
      cases new.symm.trans found

end Past

/-! ## The state of the calls agrees with the past -/

/-- The group, with another answer to whether it asks for the node to which a key belongs. -/
def setAttached (group : Group) (attached : Bool) : Group :=
  { group with attached }

theorem advance_attach (group : Group) :
    ∃ attached, group.advance .attach = (group.setAttached attached, []) := by
  rw [advance, attach]
  by_cases already : group.attached = true
  · rw [if_pos already]
    exact ⟨group.attached, rfl⟩
  · rw [if_neg already]
    exact ⟨true, rfl⟩

theorem effects_attach (group : Group) : (group.advance .attach).2 = [] := by
  obtain ⟨attached, same⟩ := advance_attach group
  rw [same]

/-- To argue about all runs, follow the attachment and the transitions one by one. -/
@[elab_as_elim]
theorem run_induction (start : Group) {motive : List Action → Prop} (nil : motive [])
    (attach : ∀ history attached,
      (start.run (history ++ [.attach])).1 = (start.run history).1.setAttached attached →
        motive history → motive (history ++ [.attach]))
    (step : ∀ history choose event,
      Transition choose (start.run history).1 event
          (start.run (history ++ [.step choose event])).1
          ((start.run history).1.step choose event).2 →
        motive history → motive (history ++ [.step choose event]))
    (moves : List Action) : motive moves := by
  induction moves using List.reverseRecOn with
  | nil => exact nil
  | append_singleton history action ih =>
      cases action with
      | attach =>
          obtain ⟨attached, same⟩ := advance_attach (start.run history).1
          refine attach history attached ?_ ih
          rw [run_concat, same]
      | step choose event =>
          refine step history choose event ?_ ih
          rw [run_concat]
          exact transition choose (start.run history).1 event

section Soundness

variable {lookupKey sourceKey : Nat → String} {group : Group}
  (sound : group.Sound (fun _ _ => True) lookupKey sourceKey) (choose : Choice) (event : Event)

include sound

/-- A request under the number of a call is ignored, so the keys need not agree. -/
theorem progress_request {request : Request} (asks : event.request? = some request) :
    ∃ key, Progress (fun _ _ => True) group event.call key (group.step choose event) := by
  cases found : group.caller? event.call with
  | none =>
      refine ⟨request.key, progress_step sound choose ?_ ?_⟩
      · intro caller again
        cases found.symm.trans again
      · cases event with
        | get | getForPeer =>
            cases asks
            exact ⟨rfl, fun _ => True.intro⟩
        | _ => cases asks
  | some caller =>
      have ignored : group.step choose event = (group, []) := by
        cases event with
        | get | getForPeer =>
            rw [step]
            exact readThrough_of_known found
        | _ => cases asks
      rw [ignored]
      refine ⟨caller.key, .stay sound ?_ (by simp)⟩
      intro other again
      cases found.symm.trans again
      rfl

/-- Whatever the answers are, a sound group goes on soundly. -/
theorem progress_any :
    ∃ key, Progress (fun _ _ => True) group event.call key (group.step choose event) := by
  cases asks : event.request? with
  | some request => exact progress_request sound choose event asks
  | none =>
      refine ⟨((group.caller? event.call).map Caller.key).getD "", progress_step sound choose ?_ ?_⟩
      · intro caller found
        rw [found]
        rfl
      · cases event with
        | get | getForPeer => cases asks
        | fetched call elapsed result => cases result <;> exact True.intro
        | loaded => exact fun _ _ _ => True.intro
        | resume | drop => exact True.intro

end Soundness

section Start

variable (name : String) (budget : Nat) (moves : List Action)

theorem sound_run :
    ((empty name budget).run moves).1.name = name ∧
      ∃ lookupKey sourceKey,
        ((empty name budget).run moves).1.Sound (fun _ _ => True) lookupKey sourceKey := by
  induction moves using run_induction (empty name budget) with
  | nil => exact ⟨rfl, fun _ => "", fun _ => "", .empty name budget⟩
  | attach history attached same ih =>
      obtain ⟨named, lookupKey, sourceKey, sound⟩ := ih
      rw [same]
      exact ⟨named, lookupKey, sourceKey, sound.cached, sound.lookups, sound.sourceRuns,
        sound.callers⟩
  | step history choose event _ ih =>
      obtain ⟨named, lookupKey, sourceKey, sound⟩ := ih
      obtain ⟨key, progress⟩ := progress_any sound choose event
      rw [run_concat]
      exact ⟨progress.name.trans named, progress.sound⟩

/-- A call waits for an answer exactly if one is outstanding on its behalf. -/
theorem asked?_run (call : Nat) (question : Effect) :
    ((empty name budget).run moves).1.asked? call = some question ↔
      question.asker? = some call ∧ Outstanding (empty name budget) moves question := by
  induction moves using run_induction (empty name budget) with
  | nil => simp [run, Outstanding, asked?, caller?, empty]
  | attach history attached same ih =>
      rw [Outstanding, Since.concat_iff, same]
      exact ih.trans (by simp [Outstanding, Action.closes, effects_attach])
  | step history choose event stepped ih =>
      rw [Outstanding, Since.concat_iff]
      refine stepped.asked?_iff.trans ?_
      rw [ih]
      simp only [advance, Action.closes]
      tauto

/-- No lookup and no run of the data source is still running once it has its outcome. -/
theorem unsettled_run :
    ((empty name budget).run moves).1.lookups.Unsettled ∧
      ((empty name budget).run moves).1.sourceRuns.Unsettled := by
  induction moves using run_induction (empty name budget) with
  | nil => exact ⟨.empty, .empty⟩
  | attach history attached same ih =>
      rw [same]
      exact ih
  | step history choose event stepped ih =>
      obtain ⟨lookups, sourceRuns⟩ := ih
      obtain ⟨-, lookupKey, sourceKey, sound⟩ := sound_run name budget history
      constructor
      · refine stepped.lookups.unsettled lookups sound.lookups ?_
        rintro key ticket outcome ⟨base, told, ends⟩
        obtain ⟨stage, found, leads⟩ := ends.found
        exact (sound.callers _ _ found).1 ticket leads
      · refine stepped.sourceRuns.unsettled sourceRuns sound.sourceRuns ?_
        rintro key ticket outcome ⟨⟨lookup, found⟩, -⟩
        exact (sound.callers _ _ found).2 ticket rfl

/-- A call that has not ended is that of the last request under its number. -/
theorem made_run {call : Nat} {caller : Caller}
    (found : ((empty name budget).run moves).1.caller? call = some caller) :
    caller.key ≠ "" ∧ ∃ request, Made (empty name budget) moves call request ∧
      request.key = caller.key ∧ (request.forPeer = true → caller.stage.lookup? = none) := by
  induction moves using run_induction (empty name budget) generalizing caller with
  | nil => cases found
  | attach history attached same ih =>
      rw [same] at found
      obtain ⟨named, request, made, rest⟩ := ih found
      exact ⟨named, request, made.keep found .attach, rest⟩
  | step history choose event stepped ih =>
      have remained {old : Caller}
          (before : ((empty name budget).run history).1.caller? call = some old)
          (key : old.key = caller.key) (lookup : old.stage.lookup? = caller.stage.lookup?) :
          caller.key ≠ "" ∧ ∃ request,
            Made (empty name budget) (history ++ [.step choose event]) call request ∧
              request.key = caller.key ∧
              (request.forPeer = true → caller.stage.lookup? = none) := by
        obtain ⟨named, request, made, same, alone⟩ := ih before
        exact ⟨key ▸ named, request, made.keep before _, same.trans key, lookup ▸ alone⟩
      -- A number is given to a new request only if no call has it.
      by_cases own : call = event.call
      · subst own
        rcases stepped.origin found with ⟨old, before, key, lookup⟩ |
          ⟨request, opens, named, same, alone⟩
        · exact remained before key lookup
        · exact ⟨same ▸ named, request, Since.now ⟨rfl, opens⟩, same, alone⟩
      · exact remained ((stepped.frame own).symm.trans found) rfl rfl

end Start

end ReadThrough.Group
