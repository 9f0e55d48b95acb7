import ReadThrough.Proofs.Group.History

/-!
# Who computes what

Each lookup that is running is led by one call, and each run of the data source
is performed by one call.  A call that joined a lookup, or waits for a run,
waits for one that is going on or has its outcome.
-/

namespace ReadThrough.Flight

variable {ρ : Type}

/-- The running computations are those that the calls lead, and each call leads one of its own. -/
structure Led (leads : Nat → String → Nat → Prop) (flight : Flight ρ) : Prop where
  running : ∀ key ticket, flight.running.lookup key = some ticket ↔ ∃ call, leads call key ticket
  alone : ∀ first second firstKey secondKey ticket, leads first firstKey ticket →
    leads second secondKey ticket → first = second

/-- The computation goes on, or its outcome is published. -/
def Present (flight : Flight ρ) (key : String) (ticket : Nat) : Prop :=
  flight.running.lookup key = some ticket ∨ (flight.outcome? ticket).isSome

namespace Led

variable {leads later : Nat → String → Nat → Prop} {flight : Flight ρ} {call : Nat} {key : String}
  {ticket : Nat}

theorem empty (nobody : ∀ call key ticket, ¬ leads call key ticket) :
    Led leads (Flight.empty : Flight ρ) where
  running := by
    intro key ticket
    constructor
    · intro found
      cases found
    · rintro ⟨call, leading⟩
      exact (nobody call key ticket leading).elim
  alone := by
    intro first second firstKey secondKey ticket leading
    exact (nobody first firstKey ticket leading).elim

theorem congr (led : Led leads flight)
    (same : ∀ other otherKey ticket, later other otherKey ticket ↔ leads other otherKey ticket) :
    Led later flight where
  running := by
    intro key ticket
    simp only [same]
    exact led.running key ticket
  alone := by
    intro first second firstKey secondKey ticket leading again
    exact led.alone _ _ _ _ _ ((same _ _ _).mp leading) ((same _ _ _).mp again)

/-- Two calls do not lead computations of one key. -/
theorem unique (led : Led leads flight) {other otherTicket : Nat} (leading : leads call key ticket)
    (again : leads other key otherTicket) : call = other := by
  have first := (led.running key ticket).mpr ⟨call, leading⟩
  have second := (led.running key otherTicket).mpr ⟨other, again⟩
  obtain rfl : ticket = otherTicket := Option.some.inj (first.symm.trans second)
  exact led.alone _ _ _ _ _ leading again

/-- Nothing is in flight that nobody leads. -/
theorem running_eq_nil (led : Led leads flight)
    (nobody : ∀ call key ticket, ¬ leads call key ticket) : flight.running = [] := by
  refine List.eq_nil_iff_forall_not_mem.mpr ?_
  rintro ⟨key, ticket⟩ present
  cases found : flight.running.lookup key with
  | some other =>
      obtain ⟨call, leading⟩ := (led.running key other).mp found
      exact nobody call key other leading
  | none => simpa using List.lookup_eq_none_iff.mp found _ present

/-- A call begins to lead a computation of a free key. -/
theorem register {right : String → ρ → Prop} {keyOf : Nat → String} (led : Led leads flight)
    (keyed : Keyed right keyOf flight) (free : flight.running.lookup key = none) (call : Nat)
    (begins : ∀ other otherKey ticket, later other otherKey ticket ↔
      (other = call ∧ otherKey = key ∧ ticket = flight.issued) ∨ leads other otherKey ticket) :
    Led later (flight.register key) := by
  have given {other : Nat} {otherKey : String} {ticket : Nat}
      (leading : leads other otherKey ticket) : ticket < flight.issued :=
    (keyed.running otherKey ticket ((led.running otherKey ticket).mpr ⟨other, leading⟩)).1
  refine ⟨?_, ?_⟩
  · intro otherKey ticket
    rw [lookup_register]
    simp only [begins]
    by_cases same : otherKey = key
    · subst otherKey
      have unled (other : Nat) : ¬ leads other key ticket := by
        intro leading
        cases free.symm.trans ((led.running key ticket).mpr ⟨other, leading⟩)
      simp [unled, eq_comm]
    · simpa [same] using led.running otherKey ticket
  · intro first second firstKey secondKey ticket leading again
    rcases (begins _ _ _).mp leading with ⟨rfl, -, rfl⟩ | old
    · rcases (begins _ _ _).mp again with ⟨rfl, -, -⟩ | oldSecond
      · rfl
      · exact absurd (given oldSecond) (Nat.lt_irrefl _)
    · rcases (begins _ _ _).mp again with ⟨rfl, -, rfl⟩ | oldSecond
      · exact absurd (given old) (Nat.lt_irrefl _)
      · exact led.alone _ _ _ _ _ old oldSecond

/-- A call that leads a computation ends with it. -/
theorem settle (led : Led leads flight) (leading : leads call key ticket)
    (single : ∀ otherKey ticket, leads call otherKey ticket → otherKey = key)
    (ends : ∀ other otherKey ticket, later other otherKey ticket ↔
      other ≠ call ∧ leads other otherKey ticket) (outcome : ρ) :
    Led later (flight.settle key ticket outcome) where
  running := by
    intro otherKey otherTicket
    rw [lookup_settle]
    simp only [ends]
    by_cases same : otherKey = key
    · subst otherKey
      simp only [if_true, reduceCtorEq, false_iff, not_exists, not_and]
      intro other different again
      exact different (led.unique again leading)
    · rw [if_neg same, led.running]
      refine exists_congr fun other => ⟨fun again => ⟨?_, again⟩, And.right⟩
      rintro rfl
      exact same (single _ _ again)
  alone := by
    intro first second firstKey secondKey otherTicket first' second'
    exact led.alone _ _ _ _ _ ((ends _ _ _).mp first').2 ((ends _ _ _).mp second').2

end Led

/-- A computation that goes on is still there later, or has its outcome. -/
theorem Change.present {may : String → Nat → ρ → Prop} {flight next : Flight ρ}
    (change : Change may flight next)
    (led : ∀ key ticket outcome, may key ticket outcome → flight.running.lookup key = some ticket)
    {key : String} {ticket : Nat} (present : flight.Present key ticket) :
    next.Present key ticket := by
  cases change with
  | stays => exact present
  | @begins other free =>
      rcases present with running | published
      · refine Or.inl ?_
        rw [lookup_register, if_neg]
        · exact running
        · rintro rfl
          cases free.symm.trans running
      · exact Or.inr published
  | @ends other settled outcome allowed =>
      by_cases own : ticket = settled
      · refine Or.inr ?_
        rw [outcome?_settle, if_pos own]
        rfl
      · rcases present with running | published
        · refine Or.inl ?_
          rw [lookup_settle, if_neg]
          · exact running
          · rintro rfl
            exact own (Option.some.inj (running.symm.trans (led _ _ _ allowed)))
        · refine Or.inr ?_
          rw [outcome?_settle, if_neg own]
          exact published

end ReadThrough.Flight

namespace ReadThrough.Group

def Stage.ledLookup? : Stage → Option Nat
  | .joined _ => none
  | .fetching ticket _ => some ticket
  | .waiting lookup _ => lookup
  | .loading lookup _ => lookup

def Stage.ledRun? : Stage → Option Nat
  | .loading _ ticket => some ticket
  | .joined _ | .fetching _ _ | .waiting _ _ => none

/-- A call leads a computation for its key; the part says which one, by the stage of the call. -/
def Leads (part : Stage → Option Nat) (group : Group) (call : Nat) (key : String)
    (ticket : Nat) : Prop :=
  ∃ stage, group.caller? call = some ⟨key, stage⟩ ∧ part stage = some ticket

/-- Each computation has its call, and nobody waits in vain. -/
structure Attended (group : Group) : Prop where
  lookups : group.lookups.Led (group.Leads Stage.ledLookup?)
  sourceRuns : group.sourceRuns.Led (group.Leads Stage.ledRun?)
  joined : ∀ call key ticket, group.caller? call = some ⟨key, .joined ticket⟩ →
    group.lookups.Present key ticket
  waiting : ∀ call key lookup ticket, group.caller? call = some ⟨key, .waiting lookup ticket⟩ →
    group.sourceRuns.Present key ticket

/-! ## Leaders after an event -/

section Leaders

variable {part : Stage → Option Nat} {group : Group} {call other : Nat} {key otherKey : String}
  {ticket : Nat}

theorem leads_of_found {stage : Stage} (found : group.caller? call = some ⟨key, stage⟩) :
    group.Leads part call otherKey ticket ↔ otherKey = key ∧ part stage = some ticket := by
  constructor
  · rintro ⟨_, again, leading⟩
    cases found.symm.trans again
    exact ⟨rfl, leading⟩
  · rintro ⟨rfl, leading⟩
    exact ⟨stage, found, leading⟩

theorem not_leads_of_new (new : group.caller? call = none) :
    ¬ group.Leads part call key ticket := by
  rintro ⟨stage, found, -⟩
  cases new.symm.trans found

theorem leads_setStage {stage : Stage} :
    (group.setStage call key stage).Leads part other otherKey ticket ↔
      (other = call ∧ otherKey = key ∧ part stage = some ticket) ∨
        (other ≠ call ∧ group.Leads part other otherKey ticket) := by
  by_cases own : other = call
  · subst own
    rw [leads_of_found (caller?_setStage_self group other key stage)]
    simp
  · simp [Leads, caller?_setStage, own]

/-- A call that goes on leads what it led before. -/
theorem leads_setStage_iff {stage : Stage}
    (same : ∀ otherKey ticket, group.Leads part call otherKey ticket ↔
      otherKey = key ∧ part stage = some ticket) :
    (group.setStage call key stage).Leads part other otherKey ticket ↔
      group.Leads part other otherKey ticket := by
  rw [leads_setStage]
  by_cases own : other = call
  · subst own
    simp [same]
  · simp [own]

theorem leads_setStage_of_new {stage : Stage} (new : group.caller? call = none) :
    (group.setStage call key stage).Leads part other otherKey ticket ↔
      (other = call ∧ otherKey = key ∧ part stage = some ticket) ∨
        group.Leads part other otherKey ticket := by
  rw [leads_setStage]
  refine or_congr_right (and_iff_right_of_imp ?_)
  rintro leading rfl
  exact not_leads_of_new new leading

theorem leads_forget :
    (group.forget call).Leads part other otherKey ticket ↔
      other ≠ call ∧ group.Leads part other otherKey ticket := by
  by_cases own : other = call
  · subst own
    simp [Leads, caller?_forget]
  · simp [Leads, caller?_forget, own]

theorem leads_of_callers {base : Group} (callers : base.callers = group.callers) :
    base.Leads part other otherKey ticket ↔ group.Leads part other otherKey ticket := by
  rw [Leads, Leads, caller?, caller?, callers]

theorem leads_withdrawn {base : Group} (callers : base.callers = group.callers)
    {outcome : Outcome} {lookup : Option Nat} :
    ((base.forget call).settleLookup key outcome lookup).1.Leads part other otherKey ticket ↔
      other ≠ call ∧ group.Leads part other otherKey ticket := by
  rw [leads_of_callers (callers_settleLookup _ key outcome lookup), leads_forget,
    leads_of_callers callers]

/-- A call that leads nothing may be forgotten. -/
theorem leads_forget_iff {stage : Stage} (found : group.caller? call = some ⟨key, stage⟩)
    (idle : part stage = none) :
    (group.forget call).Leads part other otherKey ticket ↔
      group.Leads part other otherKey ticket := by
  rw [leads_forget]
  refine and_iff_right_of_imp ?_
  rintro leading rfl
  rw [leads_of_found found, idle] at leading
  cases leading.2

end Leaders

section Transitions

variable {choose : Choice} {group next : Group} {event : Event} {effects : List Effect}
  {key : String} {right : String → Outcome → Prop} {keyOf : Nat → String}

/-- The call that ends has led its lookup, if any. -/
theorem Ends.led {lookup : Option Nat} {outcome : Outcome} {base : Group} {told : List Effect}
    (ends : Ends group event key lookup outcome base told) :
    ∃ stage, group.caller? event.call = some ⟨key, stage⟩ ∧ stage.ledLookup? = lookup := by
  cases ends with
  | fetched _ _ found | loaded _ found | waited found _ | dropFetch found | dropWait found
  | dropRun found => exact ⟨_, found, rfl⟩

/-- Whoever needs the data source leads the same lookup as before, or a new one. -/
theorem Seeks.led_lookups {lookup : Option Nat} {base : Group} {first : List Effect}
    (seeks : Seeks choose group event key lookup base first) {stage : Stage}
    (leads : stage.ledLookup? = lookup) (keyed : group.lookups.Keyed right keyOf)
    (led : group.lookups.Led (group.Leads Stage.ledLookup?)) :
    base.lookups.Led ((base.setStage event.call key stage).Leads Stage.ledLookup?) := by
  cases seeks with
  | lookup misses free alone =>
      refine led.register keyed free event.call fun other otherKey ticket => ?_
      refine (leads_setStage_of_new misses.new).trans (or_congr_left ?_)
      rw [leads, Option.some_inj, @eq_comm _ _ ticket]
  | peer misses =>
      refine led.congr fun other otherKey ticket => ?_
      refine (leads_setStage_of_new misses.new).trans (or_iff_right ?_)
      rw [leads]
      rintro ⟨-, -, impossible⟩
      cases impossible
  | failed elapsed causes found =>
      refine led.congr fun other otherKey ticket => leads_setStage_iff fun ownKey ownTicket => ?_
      rw [leads]
      exact leads_of_found found

theorem Transition.led_lookups (transition : Transition choose group event next effects)
    (keyed : group.lookups.Keyed right keyOf)
    (led : group.lookups.Led (group.Leads Stage.ledLookup?)) :
    next.lookups.Led (next.Leads Stage.ledLookup?) := by
  cases transition with
  | ignore | refuse | hit => exact led
  | join misses =>
      refine led.congr fun other otherKey ticket => ?_
      refine (leads_setStage_of_new misses.new).trans (or_iff_right ?_)
      rintro ⟨-, -, impossible⟩
      cases impossible
  | share found | leave found => exact led.congr fun _ _ _ => leads_forget_iff found rfl
  | fetch misses free =>
      refine led.register keyed free event.call fun other otherKey ticket => ?_
      refine (leads_setStage_of_new misses.new).trans (or_congr_left ?_)
      rw [Stage.ledLookup?, Option.some_inj, @eq_comm _ _ ticket]
  | wait seeks | load seeks => exact seeks.led_lookups rfl keyed led
  | @conclude _ key lookup outcome base told ends =>
      obtain ⟨stage, found, leads⟩ := ends.led
      have same (other : Nat) (otherKey : String) (ticket : Nat) :
          ((base.forget event.call).settleLookup key outcome lookup).1.Leads Stage.ledLookup? other
            otherKey ticket ↔
          other ≠ event.call ∧ group.Leads Stage.ledLookup? other otherKey ticket :=
        leads_withdrawn ends.callers_base
      cases lookup with
      | none =>
          change base.lookups.Led _
          rw [ends.lookups_base]
          refine led.congr fun other otherKey ticket => (same other otherKey ticket).trans ?_
          rw [← leads_forget]
          exact leads_forget_iff found leads
      | some ticket =>
          change (base.lookups.settle key ticket outcome).Led _
          rw [ends.lookups_base]
          refine led.settle ⟨stage, found, leads⟩ ?_ same outcome
          intro otherKey otherTicket again
          exact ((leads_of_found found).mp again).1

/-- A call that comes to need the data source has not run it before. -/
theorem Seeks.idle {lookup : Option Nat} {base : Group} {first : List Effect}
    (seeks : Seeks choose group event key lookup base first) (otherKey : String) (ticket : Nat) :
    ¬ group.Leads Stage.ledRun? event.call otherKey ticket := by
  cases seeks with
  | lookup misses | peer misses => exact not_leads_of_new misses.new
  | failed elapsed causes found =>
      intro leads
      cases ((leads_of_found found).mp leads).2

theorem Transition.led_sourceRuns (transition : Transition choose group event next effects)
    (keyed : group.sourceRuns.Keyed right keyOf)
    (led : group.sourceRuns.Led (group.Leads Stage.ledRun?)) :
    next.sourceRuns.Led (next.Leads Stage.ledRun?) := by
  cases transition with
  | ignore | refuse | hit => exact led
  | join misses | fetch misses =>
      refine led.congr fun other otherKey ticket => ?_
      refine (leads_setStage_of_new misses.new).trans (or_iff_right ?_)
      rintro ⟨-, -, impossible⟩
      cases impossible
  | share found | leave found => exact led.congr fun _ _ _ => leads_forget_iff found rfl
  | @wait _ key lookup base first joined seeks running =>
      change base.sourceRuns.Led _
      rw [seeks.sourceRuns_base]
      refine led.congr fun other otherKey ticket => ?_
      rw [leads_setStage, leads_of_callers seeks.callers_base]
      by_cases own : other = event.call
      · subst own
        simp [Stage.ledRun?, seeks.idle]
      · simp [own]
  | @load _ key lookup base first seeks free =>
      change (base.sourceRuns.register key).Led _
      rw [seeks.sourceRuns_base]
      have started : (base.leadRun key).callers = group.callers := seeks.callers_base
      refine led.register keyed free event.call fun other otherKey ticket => ?_
      rw [leads_setStage, leads_of_callers started]
      by_cases own : other = event.call
      · subst own
        simp [Stage.ledRun?, seeks.idle, @eq_comm _ _ ticket]
      · simp [own]
  | @conclude _ key lookup outcome base told ends =>
      rw [sourceRuns_settleLookup]
      have same (other : Nat) (otherKey : String) (ticket : Nat) :
          ((base.forget event.call).settleLookup key outcome lookup).1.Leads Stage.ledRun? other
            otherKey ticket ↔
          other ≠ event.call ∧ group.Leads Stage.ledRun? other otherKey ticket :=
        leads_withdrawn ends.callers_base
      cases ends with
      | fetched _ _ found | waited found | dropFetch found | dropWait found =>
          refine led.congr fun other otherKey ticket => (same other otherKey ticket).trans ?_
          rw [← leads_forget]
          exact leads_forget_iff found rfl
      | @loaded call key lookup ticket result found =>
          have ended := led.settle ⟨_, found, rfl⟩
            (fun otherKey otherTicket again => ((leads_of_found found).mp again).1) same
            (outcomeOf result)
          cases result with
          | ok value => exact ended
          | error causes => exact ended
      | dropRun found =>
          exact led.settle ⟨_, found, rfl⟩
            (fun otherKey otherTicket again => ((leads_of_found found).mp again).1) same _

/-- No event leaves a computation without its call, or a call without its computation. -/
theorem Transition.attended {lookupKey sourceKey : Nat → String}
    (transition : Transition choose group event next effects)
    (sound : group.Sound (fun _ _ => True) lookupKey sourceKey) (attended : group.Attended) :
    next.Attended where
  lookups := transition.led_lookups sound.lookups attended.lookups
  sourceRuns := transition.led_sourceRuns sound.sourceRuns attended.sourceRuns
  joined := by
    intro call key ticket found
    have before : group.lookups.Present key ticket := by
      rcases transition.joins found with old | ⟨-, running⟩
      · exact attended.joined call key ticket old
      · exact Or.inl running
    refine transition.lookups.present ?_ before
    rintro led leader outcome ⟨base, told, ends⟩
    obtain ⟨stage, leads⟩ := ends.led
    exact (attended.lookups.running led leader).mpr ⟨event.call, stage, leads⟩
  waiting := by
    intro call key lookup ticket found
    have before : group.sourceRuns.Present key ticket := by
      rcases transition.waitsFor found with old | ⟨-, running⟩
      · exact attended.waiting call key lookup ticket old
      · exact Or.inl running
    refine transition.sourceRuns.present ?_ before
    rintro led leader outcome ⟨⟨lookup, leads⟩, -⟩
    exact (attended.sourceRuns.running led leader).mpr ⟨event.call, _, leads, rfl⟩

end Transitions

theorem attended_empty (name : String) (budget : Nat) : (empty name budget).Attended where
  lookups := .empty fun _ _ _ => not_leads_of_new rfl
  sourceRuns := .empty fun _ _ _ => not_leads_of_new rfl
  joined := by
    intro call key ticket found
    cases found
  waiting := by
    intro call key lookup ticket found
    cases found

/-- Whatever a group takes part in, each computation has its call and nobody waits in vain. -/
theorem attended_run (name : String) (budget : Nat) (moves : List Action) :
    ((empty name budget).run moves).1.Attended := by
  induction moves using run_induction (empty name budget) with
  | nil => exact attended_empty name budget
  | attach history attached same ih =>
      rw [same]
      exact ⟨ih.lookups, ih.sourceRuns, ih.joined, ih.waiting⟩
  | step history choose event stepped ih =>
      obtain ⟨-, lookupKey, sourceKey, sound⟩ := sound_run name budget history
      exact stepped.attended sound ih

end ReadThrough.Group
