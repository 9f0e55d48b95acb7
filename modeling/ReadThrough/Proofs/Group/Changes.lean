import ReadThrough.Proofs.Group.Transition

/-!
# What the transitions of a group have in common

An event leaves the other calls alone.  Its own call has been there before or
is begun by it, waits for what it has asked and not been given, and ends with
an outcome whose origin can be told.  The same goes for the lookups, the runs
of the data source and the entries of the cache: what is new in them comes from
the call of the event.
-/

namespace ReadThrough.Group

/-! ## Before a run, and at the end of a call -/

section Bases

variable {choose : Choice} {group : Group} {event : Event} {key : String}
  {lookup : Option Nat} {base : Group} {first told : List Effect} {outcome : Outcome}

theorem Seeks.callers_base (seeks : Seeks choose group event key lookup base first) :
    base.callers = group.callers := by
  cases seeks <;> rfl

/-- A call that needs the data source has been there before, or its request begins it. -/
theorem Seeks.origin (seeks : Seeks choose group event key lookup base first) :
    (∃ old, group.caller? event.call = some old ∧ old.key = key ∧ old.stage.lookup? = lookup) ∨
      ∃ request, event.Opens group request ∧ request.key ≠ "" ∧ request.key = key ∧
        (request.forPeer = true → lookup = none) := by
  cases seeks with
  | lookup misses | peer misses =>
      exact Or.inr ⟨_, misses.toOpens, misses.named, rfl, by simp⟩
  | failed _ _ found => exact Or.inl ⟨_, found, rfl, rfl⟩

/-- Nobody is asked before the data source is. -/
theorem Seeks.asks_nobody (seeks : Seeks choose group event key lookup base first) :
    ∀ effect ∈ first, effect.asker? = none := by
  cases seeks <;> simp [Effect.asker?, fetchReport]

/-- What was asked before is answered. -/
theorem Seeks.closes (seeks : Seeks choose group event key lookup base first) {effect : Effect}
    (asked : group.asked? event.call = some effect) : event.closes effect = true := by
  cases seeks with
  | lookup misses | peer misses => cases (asked?_of_new misses.new).symm.trans asked
  | failed elapsed causes found =>
      cases (asked?_of_found found).symm.trans asked
      exact decide_eq_true rfl

theorem Ends.callers_base (ends : Ends group event key lookup outcome base told) :
    base.callers = group.callers := by
  cases ends with
  | loaded result => cases result <;> rfl
  | _ => rfl

theorem Ends.lookups_base (ends : Ends group event key lookup outcome base told) :
    base.lookups = group.lookups := by
  cases ends with
  | loaded result => cases result <;> rfl
  | _ => rfl

/-- The call that ends leads the lookup, if any. -/
theorem Ends.found (ends : Ends group event key lookup outcome base told) :
    ∃ stage, group.caller? event.call = some ⟨key, stage⟩ ∧ stage.lookup? = lookup := by
  cases ends with
  | fetched _ _ found | loaded _ found | waited found _ | dropFetch found | dropWait found
  | dropRun found => exact ⟨_, found, rfl⟩

theorem Ends.tells (ends : Ends group event key lookup outcome base told) {call : Nat}
    {other : Outcome} (finish : .finish call other ∈ told) :
    call = event.call ∧ other = outcome := by
  cases ends with
  | fetched | loaded | waited => simpa [Event.call] using finish
  | dropFetch | dropWait | dropRun => simp at finish

theorem Ends.asks_nobody (ends : Ends group event key lookup outcome base told) :
    ∀ effect ∈ told, effect.asker? = none := by
  cases ends <;> simp +contextual [Effect.asker?, or_imp]

theorem Ends.closes (ends : Ends group event key lookup outcome base told) {effect : Effect}
    (asked : group.asked? event.call = some effect) : event.closes effect = true := by
  cases ends with
  | fetched _ _ found | loaded _ found | waited found _ | dropFetch found | dropWait found
  | dropRun found =>
    cases (asked?_of_found found).symm.trans asked <;> exact decide_eq_true rfl

end Bases

theorem sourceRuns_settleLookup (group : Group) (key : String) (outcome : Outcome)
    (lookup : Option Nat) :
    (group.settleLookup key outcome lookup).1.sourceRuns = group.sourceRuns := by
  cases lookup <;> rfl

theorem cache_settleLookup (group : Group) (key : String) (outcome : Outcome)
    (lookup : Option Nat) : (group.settleLookup key outcome lookup).1.cache = group.cache := by
  cases lookup <;> rfl

theorem wake_of_mem_settleLookup {group : Group} {key : String} {outcome : Outcome}
    {lookup : Option Nat} {effect : Effect}
    (present : effect ∈ (group.settleLookup key outcome lookup).2) :
    ∃ call, effect = .wake call := by
  obtain ⟨woken, same⟩ := effects_settleLookup group key outcome lookup
  rw [same] at present
  obtain ⟨call, -, rfl⟩ := List.mem_map.mp present
  exact ⟨call, rfl⟩

namespace Transition

variable {choose : Choice} {group next : Group} {event : Event} {effects : List Effect}
  (transition : Transition choose group event next effects)

include transition

/-! ## Calls and their questions -/

/-- The other calls stay as they are. -/
theorem frame {other : Nat} (different : other ≠ event.call) :
    next.caller? other = group.caller? other := by
  cases transition with
  | ignore | refuse | hit => rfl
  | join | fetch => exact (caller?_setStage _ _ _ _ _).trans (if_neg different)
  | share | leave => exact (caller?_forget _ _ _).trans (if_neg different)
  | wait seeks | load seeks =>
      refine ((caller?_setStage _ _ _ _ _).trans (if_neg different)).trans ?_
      exact congrArg (Ordered.get? other) seeks.callers_base
  | conclude ends =>
      refine ((caller?_withdrawn _ _ _ _ _ _).trans (if_neg different)).trans ?_
      exact congrArg (Ordered.get? other) ends.callers_base

/-- The call of an event has been there before, or the event begins it. -/
theorem origin {caller : Caller} (found : next.caller? event.call = some caller) :
    (∃ old, group.caller? event.call = some old ∧ old.key = caller.key ∧
        old.stage.lookup? = caller.stage.lookup?) ∨
      ∃ request, event.Opens group request ∧ request.key ≠ "" ∧ request.key = caller.key ∧
        (request.forPeer = true → caller.stage.lookup? = none) := by
  cases transition with
  | ignore => exact Or.inl ⟨caller, found, rfl, rfl⟩
  | refuse opens | hit opens => cases opens.new.symm.trans found
  | join misses | fetch misses =>
      cases (caller?_setStage_self _ _ _ _).symm.trans found
      exact Or.inr ⟨_, misses.toOpens, misses.named, rfl, by simp⟩
  | wait seeks | load seeks =>
      cases (caller?_setStage_self _ _ _ _).symm.trans found
      exact seeks.origin
  | share | leave => cases (caller?_forget_self _ _).symm.trans found
  | conclude => cases (caller?_withdrawn_self _ _ _ _ _).symm.trans found

/-- Only the call of the event asks, and then it waits for the answer. -/
theorem asks {effect : Effect} {call : Nat} (present : effect ∈ effects)
    (asker : effect.asker? = some call) :
    call = event.call ∧ next.asked? call = some effect := by
  have nobody {first : List Effect} (silent : ∀ effect ∈ first, effect.asker? = none) :
      effect ∉ first := by
    intro early
    cases asker.symm.trans (silent effect early)
  have only {first : List Effect} {entry : Log} {question : Effect}
      (silent : ∀ effect ∈ first, effect.asker? = none)
      (within : effect ∈ first ++ [.log entry, question]) : effect = question := by
    rcases List.mem_append.mp within with early | late
    · exact (nobody silent early).elim
    · rcases List.mem_cons.mp late with rfl | last
      · cases asker
      · exact List.mem_singleton.mp last
  cases transition with
  | ignore | join | leave => simp at present
  | refuse | hit | share =>
      refine (nobody ?_ present).elim
      simp [Effect.asker?, report]
  | fetch =>
      obtain rfl := only (by simp [Effect.asker?]) present
      cases asker
      exact ⟨rfl, asked?_setStage _ _ _ _⟩
  | wait seeks => exact (nobody seeks.asks_nobody present).elim
  | load seeks =>
      obtain rfl := only seeks.asks_nobody present
      cases asker
      exact ⟨rfl, asked?_setStage _ _ _ _⟩
  | conclude ends =>
      rcases List.mem_append.mp present with early | late
      · exact (nobody ends.asks_nobody early).elim
      · obtain ⟨woken, rfl⟩ := wake_of_mem_settleLookup late
        cases asker

/-- What the call of an event waits for was asked now, or the event does not answer it. -/
theorem asked {effect : Effect} (waits : next.asked? event.call = some effect) :
    effect ∈ effects ∨ group.asked? event.call = some effect ∧ event.closes effect = false := by
  cases transition with
  | ignore stale late => exact Or.inr ⟨waits, stale effect waits⟩
  | refuse opens | hit opens => cases (asked?_of_new opens.new).symm.trans waits
  | join | wait => cases (asked?_setStage _ _ _ _).symm.trans waits
  | fetch | load =>
      cases (asked?_setStage _ _ _ _).symm.trans waits
      simp
  | share | leave => cases (asked?_of_new (caller?_forget_self _ _)).symm.trans waits
  | conclude => cases (asked?_of_new (caller?_withdrawn_self _ _ _ _ _)).symm.trans waits

/-- Only an answer ends the wait for it. -/
theorem waits {effect : Effect} (asked : group.asked? event.call = some effect)
    (unanswered : event.closes effect = false) : next.asked? event.call = some effect := by
  have fresh (new : group.caller? event.call = none) : False := by
    cases (asked?_of_new new).symm.trans asked
  cases transition with
  | ignore => exact asked
  | refuse opens | hit opens => exact (fresh opens.new).elim
  | join misses | fetch misses => exact (fresh misses.new).elim
  | wait seeks | load seeks => cases unanswered.symm.trans (seeks.closes asked)
  | share found | leave found => cases (asked?_of_found found).symm.trans asked
  | conclude ends => cases unanswered.symm.trans (ends.closes asked)

/-- A call waits for what was asked now, and for what was asked before and is not answered. -/
theorem asked?_iff {call : Nat} {effect : Effect} :
    next.asked? call = some effect ↔
      (effect ∈ effects ∧ effect.asker? = some call) ∨
        (group.asked? call = some effect ∧ event.closes effect = false) := by
  -- An event can only answer or begin what concerns its own call.
  constructor
  · intro waits
    by_cases own : call = event.call
    · subst own
      refine (transition.asked waits).imp_left fun present => ?_
      exact ⟨present, asker?_of_asked waits⟩
    · rw [asked?, transition.frame own] at waits
      refine Or.inr ⟨waits, Bool.eq_false_iff.mpr fun closes => own ?_⟩
      exact Option.some_inj.mp ((asker?_of_asked waits).symm.trans (asker?_of_closes closes))
  · rintro (⟨present, asker⟩ | ⟨asked, unanswered⟩)
    · exact (transition.asks present asker).2
    · by_cases own : call = event.call
      · subst own
        exact transition.waits asked unanswered
      · rw [asked?, transition.frame own]
        exact asked

/-! ## Effects -/

/--
A call ends with a refusal, with a value from the cache, with the outcome of the
lookup that it joined, or with the outcome that it leaves.
-/
theorem finishes {call : Nat} {outcome : Outcome} (finish : .finish call outcome ∈ effects) :
    call = event.call ∧
      ((∃ request, event.Opens group request ∧ request.key = "" ∧
          outcome = .error .invalidKey) ∨
        (∃ request value, event.Opens group request ∧ request.key ≠ "" ∧
          outcome = .ok value ∧ (group.cache.get request.key).1 = some value) ∨
        (∃ key ticket, group.caller? event.call = some ⟨key, .joined ticket⟩ ∧
          group.lookups.outcome? ticket = some outcome) ∨
        ∃ key lookup base told, Ends group event key lookup outcome base told) := by
  cases transition with
  | ignore | join | leave => simp at finish
  | fetch => simp [report] at finish
  | wait seeks | load seeks => cases seeks <;> simp [report, fetchReport] at finish
  | refuse opens unnamed =>
      obtain ⟨rfl, rfl⟩ : call = _ ∧ outcome = _ := by simpa using finish
      exact ⟨rfl, Or.inl ⟨_, opens, unnamed, rfl⟩⟩
  | hit opens named found =>
      obtain ⟨rfl, rfl⟩ : call = _ ∧ outcome = _ := by simpa [report] using finish
      exact ⟨rfl, Or.inr (Or.inl ⟨_, _, opens, named, rfl, found⟩)⟩
  | share found published =>
      obtain ⟨rfl, rfl⟩ : call = _ ∧ outcome = _ := by simpa using finish
      exact ⟨rfl, Or.inr (Or.inr (Or.inl ⟨_, _, found, published⟩))⟩
  | conclude ends =>
      rcases List.mem_append.mp finish with told | woken
      · obtain ⟨rfl, rfl⟩ := ends.tells told
        exact ⟨rfl, Or.inr (Or.inr (Or.inr ⟨_, _, _, _, ends⟩))⟩
      · obtain ⟨other, impossible⟩ := wake_of_mem_settleLookup woken
        cases impossible

/-- Another node is asked only if it was picked for the key. -/
theorem fetches {call : Nat} {address key : String}
    (present : .fetch call address key ∈ effects) : (group.pick choose key).1 = some address := by
  cases transition with
  | ignore | join | leave | refuse | share => simp at present
  | hit => simp [report] at present
  | fetch misses free picked =>
      obtain ⟨rfl, rfl, rfl⟩ : call = _ ∧ address = _ ∧ key = _ := by
        simpa [report] using present
      exact picked
  | wait seeks | load seeks => cases seeks <;> simp [report, fetchReport] at present
  | conclude ends =>
      rcases List.mem_append.mp present with told | woken
      · cases ends.asks_nobody _ told
      · obtain ⟨other, impossible⟩ := wake_of_mem_settleLookup woken
        cases impossible

/-! ## Lookups, runs of the data source and the cache -/

/-- A lookup may begin, or get its outcome from the call that leads it. -/
theorem lookups :
    group.lookups.Change
      (fun key ticket outcome => ∃ base told, Ends group event key (some ticket) outcome base told)
      next.lookups := by
  cases transition with
  | ignore | refuse | hit | join | share | leave => exact .stays
  | fetch misses free => exact .begins free
  | wait seeks | load seeks =>
      cases seeks with
      | lookup misses free => exact .begins free
      | peer | failed => exact .stays
  | @conclude _ key lookup outcome base told ends =>
      have same := ends.lookups_base
      cases lookup with
      | none =>
          change group.lookups.Change _ base.lookups
          rw [same]
          exact .stays
      | some ticket =>
          change group.lookups.Change _ (base.lookups.settle key ticket outcome)
          rw [same]
          exact .ends ⟨base, told, ends⟩

/-- A run of the data source may begin, or get its outcome from the call that performs it. -/
theorem sourceRuns :
    group.sourceRuns.Change
      (fun key ticket outcome =>
        (∃ lookup, group.caller? event.call = some ⟨key, .loading lookup ticket⟩) ∧
          event.runOutcome? = some outcome)
      next.sourceRuns := by
  cases transition with
  | ignore | refuse | hit | join | share | leave | fetch => exact .stays
  | @wait _ key lookup base first ticket seeks running =>
      change group.sourceRuns.Change _ base.sourceRuns
      rw [seeks.sourceRuns_base]
      exact .stays
  | @load _ key lookup base first seeks free =>
      change group.sourceRuns.Change _ (base.sourceRuns.register key)
      rw [seeks.sourceRuns_base]
      exact .begins free
  | conclude ends =>
      rw [sourceRuns_settleLookup]
      cases ends with
      | fetched | waited | dropFetch | dropWait => exact .stays
      | loaded result found =>
          cases result with
          | ok | error => exact .ends ⟨⟨_, found⟩, rfl⟩
      | dropRun found => exact .ends ⟨⟨_, found⟩, rfl⟩

/-- A call joined its lookup before, or joins one that is running. -/
theorem joins {call : Nat} {key : String} {ticket : Nat}
    (found : next.caller? call = some ⟨key, .joined ticket⟩) :
    group.caller? call = some ⟨key, .joined ticket⟩ ∨
      next.lookups = group.lookups ∧ group.lookups.running.lookup key = some ticket := by
  by_cases own : call = event.call
  · subst own
    cases transition with
    | ignore => exact Or.inl found
    | refuse opens | hit opens => cases opens.new.symm.trans found
    | join misses running =>
        cases (caller?_setStage_self _ _ _ _).symm.trans found
        exact Or.inr ⟨rfl, running⟩
    | fetch | wait | load => cases (caller?_setStage_self _ _ _ _).symm.trans found
    | share | leave => cases (caller?_forget_self _ _).symm.trans found
    | conclude => cases (caller?_withdrawn_self _ _ _ _ _).symm.trans found
  · exact Or.inl ((transition.frame own).symm.trans found)

/-- A call waited for its run of the data source before, or does so for one that is running. -/
theorem waitsFor {call : Nat} {key : String} {lookup : Option Nat} {ticket : Nat}
    (found : next.caller? call = some ⟨key, .waiting lookup ticket⟩) :
    group.caller? call = some ⟨key, .waiting lookup ticket⟩ ∨
      next.sourceRuns = group.sourceRuns ∧ group.sourceRuns.running.lookup key = some ticket := by
  by_cases own : call = event.call
  · subst own
    cases transition with
    | ignore => exact Or.inl found
    | refuse opens | hit opens => cases opens.new.symm.trans found
    | wait seeks running =>
        cases (caller?_setStage_self _ _ _ _).symm.trans found
        exact Or.inr ⟨seeks.sourceRuns_base, running⟩
    | join | fetch | load => cases (caller?_setStage_self _ _ _ _).symm.trans found
    | share | leave => cases (caller?_forget_self _ _).symm.trans found
    | conclude => cases (caller?_withdrawn_self _ _ _ _ _).symm.trans found
  · exact Or.inl ((transition.frame own).symm.trans found)

/-- An entry is as before, or the data source has just provided it. -/
theorem entries {entry : Cache.Entry Bytes} (present : entry ∈ next.cache.entries) :
    (entry ∈ group.cache.entries ∧ ∀ value, ¬ event.Provides group entry.key value) ∨
      event.Provides group entry.key entry.value := by
  have unasked (new : group.caller? event.call = none) (value : Bytes) :
      ¬ event.Provides group entry.key value := by
    rintro ⟨-, asked⟩
    cases (asked?_of_new new).symm.trans asked
  cases transition with
  | ignore stale =>
      refine Or.inl ⟨present, fun value provides => ?_⟩
      cases (stale _ provides.2).symm.trans provides.closes
  | refuse opens => exact Or.inl ⟨present, unasked opens.new⟩
  | hit opens => exact Or.inl ⟨Cache.mem_get present, unasked opens.new⟩
  | join misses | fetch misses => exact Or.inl ⟨Cache.mem_get present, unasked misses.new⟩
  | share | leave => exact Or.inl ⟨present, fun value provides => by cases provides.1⟩
  | wait seeks | load seeks =>
      cases seeks with
      | lookup misses | peer misses =>
          exact Or.inl ⟨Cache.mem_get present, unasked misses.new⟩
      | failed => exact Or.inl ⟨present, fun value provides => by cases provides.1⟩
  | conclude ends =>
      rw [cache_settleLookup] at present
      cases ends with
      | fetched | waited | dropFetch | dropWait | dropRun =>
          exact Or.inl ⟨present, fun value provides => by cases provides.1⟩
      | @loaded call key lookup ticket result found =>
          cases result with
          | error causes => exact Or.inl ⟨present, fun value provides => by cases provides.1⟩
          | ok value =>
              have asked : group.asked? call = some (.load call _) := asked?_of_found found
              rcases Cache.mem_put present with ⟨old, other⟩ | ⟨rfl, rfl⟩
              · -- The call asked for one key only, and the entry of that key was replaced.
                refine Or.inl ⟨old, ?_⟩
                rintro value ⟨-, again⟩
                cases asked.symm.trans again
                exact other rfl
              · exact Or.inr ⟨rfl, asked⟩

end Transition

end ReadThrough.Group
