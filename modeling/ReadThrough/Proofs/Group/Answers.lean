import ReadThrough.Group.Step
import ReadThrough.Proofs.Cache.Contents
import ReadThrough.Proofs.Flight.Tickets

/-!
# What a group may answer

A group gives a call only what was right for its key when it came in: from the
cache, from the node that was asked, from the data source, or from the call
whose lookup or run of the data source it shares.  Which outcomes are right is
left open, and so is the way in which other nodes are chosen.
-/

namespace ReadThrough.Group

def Stage.lookup? : Stage → Option Nat
  | .joined ticket => some ticket
  | .fetching ticket _ => some ticket
  | .waiting lookup _ => lookup
  | .loading lookup _ => lookup

def Stage.sourceRun? : Stage → Option Nat
  | .joined _ => none
  | .fetching _ _ => none
  | .waiting _ ticket => some ticket
  | .loading _ ticket => some ticket

def outcomeOf : Except Causes Bytes → Outcome
  | .ok value => .ok value
  | .error causes => .error (.source (.reported causes))

/-- The tickets of a call were given out for its key. -/
def Caller.Fits (lookupKey sourceKey : Nat → String) (group : Group) (caller : Caller) : Prop :=
  (∀ ticket, caller.stage.lookup? = some ticket →
    group.lookups.Belongs lookupKey ticket caller.key) ∧
  ∀ ticket, caller.stage.sourceRun? = some ticket →
    group.sourceRuns.Belongs sourceKey ticket caller.key

/-- All that a group has to give is right for its key. -/
structure Sound (right : String → Outcome → Prop) (lookupKey sourceKey : Nat → String)
    (group : Group) : Prop where
  cached : group.cache.Holds fun key value => right key (.ok value)
  lookups : group.lookups.Keyed right lookupKey
  sourceRuns : group.sourceRuns.Keyed right sourceKey
  callers : ∀ call caller, group.caller? call = some caller →
    caller.Fits lookupKey sourceKey group

/-- An effect is about the call and its key, and a call ends with what is right. -/
def Effect.Fits (right : String → Outcome → Prop) (next : Group) (call : Nat) (key : String) :
    Effect → Prop
  | .fetch other _ asked => other = call ∧ asked = key ∧ next.caller? call ≠ none
  | .load other asked => other = call ∧ asked = key
  | .finish other outcome => other = call ∧ next.caller? call = none ∧ right key outcome
  | .wake _ => True
  | .log _ => True

/-- A group goes on with one call and stays sound. -/
structure Progress (right : String → Outcome → Prop) (group : Group) (call : Nat) (key : String)
    (result : Group × List Effect) : Prop where
  name : result.1.name = group.name
  sound : ∃ lookupKey sourceKey, result.1.Sound right lookupKey sourceKey
  others : ∀ other, other ≠ call → result.1.caller? other = group.caller? other
  own : ∀ caller, result.1.caller? call = some caller → caller.key = key
  effects : ∀ effect ∈ result.2, effect.Fits right result.1 call key

/-! ## Calls that come and go -/

theorem caller?_setStage (group : Group) (call other : Nat) (key : String) (stage : Stage) :
    (group.setStage call key stage).caller? other =
      if other = call then some ⟨key, stage⟩ else group.caller? other :=
  Ordered.get?_put call other _ group.callers

theorem caller?_forget (group : Group) (call other : Nat) :
    (group.forget call).caller? other =
      if other = call then none else group.caller? other :=
  Ordered.get?_filter_ne call other group.callers

theorem callers_settleLookup (group : Group) (key : String) (outcome : Outcome)
    (lookup : Option Nat) :
    (group.settleLookup key outcome lookup).1.callers = group.callers := by
  cases lookup with
  | none => rfl
  | some ticket => rfl

theorem name_settleLookup (group : Group) (key : String) (outcome : Outcome)
    (lookup : Option Nat) :
    (group.settleLookup key outcome lookup).1.name = group.name := by
  cases lookup with
  | none => rfl
  | some ticket => rfl

/-- Settling a lookup does nothing but wake the calls that wait for it. -/
theorem effects_settleLookup (group : Group) (key : String) (outcome : Outcome)
    (lookup : Option Nat) :
    ∃ woken : List Nat, (group.settleLookup key outcome lookup).2 = woken.map .wake := by
  cases lookup with
  | none => exact ⟨[], rfl⟩
  | some ticket => exact ⟨group.lookupWaiters ticket, rfl⟩

/-- A call that is forgotten stays so while its lookup is settled. -/
theorem caller?_withdrawn (group : Group) (call other : Nat) (key : String) (outcome : Outcome)
    (lookup : Option Nat) :
    ((group.forget call).settleLookup key outcome lookup).1.caller? other =
      if other = call then none else group.caller? other := by
  rw [caller?, callers_settleLookup]
  exact caller?_forget group call other

namespace Sound

variable {right : String → Outcome → Prop} {lookupKey sourceKey : Nat → String} {group : Group}

theorem empty (name : String) (budget : Nat) :
    (Group.empty name budget).Sound right lookupKey sourceKey where
  cached := .empty budget
  lookups := .empty lookupKey
  sourceRuns := .empty sourceKey
  callers := by
    intro call caller found
    cases found

theorem mono {other : String → Outcome → Prop} (sound : group.Sound right lookupKey sourceKey)
    (weaker : ∀ key outcome, right key outcome → other key outcome) :
    group.Sound other lookupKey sourceKey where
  cached := sound.cached.mono fun key value => weaker key (.ok value)
  lookups := sound.lookups.mono weaker
  sourceRuns := sound.sourceRuns.mono weaker
  callers := sound.callers

theorem setStage (sound : group.Sound right lookupKey sourceKey) (call : Nat) {key : String}
    {stage : Stage} (fits : Caller.Fits lookupKey sourceKey group ⟨key, stage⟩) :
    (group.setStage call key stage).Sound right lookupKey sourceKey where
  cached := sound.cached
  lookups := sound.lookups
  sourceRuns := sound.sourceRuns
  callers := by
    intro other caller found
    rw [caller?_setStage] at found
    split at found
    · cases found
      exact fits
    · exact sound.callers other caller found

theorem forget (sound : group.Sound right lookupKey sourceKey) (call : Nat) :
    (group.forget call).Sound right lookupKey sourceKey where
  cached := sound.cached
  lookups := sound.lookups
  sourceRuns := sound.sourceRuns
  callers := by
    intro other caller found
    rw [caller?_forget] at found
    split at found
    · cases found
    · exact sound.callers other caller found

theorem settleLookup (sound : group.Sound right lookupKey sourceKey) {key : String}
    {outcome : Outcome} {lookup : Option Nat}
    (belongs : ∀ ticket, lookup = some ticket → group.lookups.Belongs lookupKey ticket key)
    (holds : right key outcome) :
    (group.settleLookup key outcome lookup).1.Sound right lookupKey sourceKey := by
  cases lookup with
  | none => exact sound
  | some ticket =>
      exact ⟨sound.cached, sound.lookups.settle (belongs ticket rfl) holds, sound.sourceRuns,
        sound.callers⟩

theorem settleSource (sound : group.Sound right lookupKey sourceKey) {key : String}
    {outcome : Outcome} {ticket : Nat}
    (belongs : group.sourceRuns.Belongs sourceKey ticket key) (holds : right key outcome) :
    (group.settleSource key ticket outcome).1.Sound right lookupKey sourceKey :=
  ⟨sound.cached, sound.lookups, sound.sourceRuns.settle belongs holds, sound.callers⟩

theorem startLookup (sound : group.Sound right lookupKey sourceKey) (key : String) :
    { group with lookups := group.lookups.register key }.Sound right
      (group.lookups.assign lookupKey key) sourceKey where
  cached := sound.cached
  lookups := sound.lookups.register key
  sourceRuns := sound.sourceRuns
  callers := by
    intro call caller found
    obtain ⟨lookup, source⟩ := sound.callers call caller found
    exact ⟨fun ticket carries => (lookup ticket carries).register key, source⟩

theorem startSource (sound : group.Sound right lookupKey sourceKey) (key : String) (loads : Nat) :
    { group with sourceRuns := group.sourceRuns.register key, localLoads := loads }.Sound right
      lookupKey (group.sourceRuns.assign sourceKey key) where
  cached := sound.cached
  lookups := sound.lookups
  sourceRuns := sound.sourceRuns.register key
  callers := by
    intro call caller found
    obtain ⟨lookup, source⟩ := sound.callers call caller found
    exact ⟨lookup, fun ticket carries => (source ticket carries).register key⟩

/-- A value may be kept if it is the right answer. -/
theorem keep (sound : group.Sound right lookupKey sourceKey) {key : String}
    {result : Except Causes Bytes} (holds : right key (outcomeOf result)) :
    (group.keep key result).1.Sound right lookupKey sourceKey := by
  cases result with
  | ok value =>
      exact ⟨sound.cached.put holds, sound.lookups, sound.sourceRuns, sound.callers⟩
  | error causes => exact sound

/-- Calls that share a lookup are about the same key. -/
theorem key_of_lookup (sound : group.Sound right lookupKey sourceKey) {call other : Nat}
    {first second : Caller} {ticket : Nat} (found : group.caller? call = some first)
    (again : group.caller? other = some second) (holds : first.stage.lookup? = some ticket)
    (shares : second.stage.lookup? = some ticket) : first.key = second.key :=
  ((sound.callers call first found).1 ticket holds).2.symm.trans
    ((sound.callers other second again).1 ticket shares).2

/-- Calls that share a run of the data source are about the same key. -/
theorem key_of_sourceRun (sound : group.Sound right lookupKey sourceKey) {call other : Nat}
    {first second : Caller} {ticket : Nat} (found : group.caller? call = some first)
    (again : group.caller? other = some second) (holds : first.stage.sourceRun? = some ticket)
    (shares : second.stage.sourceRun? = some ticket) : first.key = second.key :=
  ((sound.callers call first found).2 ticket holds).2.symm.trans
    ((sound.callers other second again).2 ticket shares).2

end Sound

/-! ## Parts of a step -/

namespace Progress

variable {right : String → Outcome → Prop} {group : Group} {call : Nat} {key : String}

/-- The group stays as it is. -/
theorem stay {lookupKey sourceKey : Nat → String} (sound : group.Sound right lookupKey sourceKey)
    (own : ∀ caller, group.caller? call = some caller → caller.key = key)
    {effects : List Effect} (fine : ∀ effect ∈ effects, effect.Fits right group call key) :
    Progress right group call key (group, effects) where
  name := rfl
  sound := ⟨lookupKey, sourceKey, sound⟩
  others := fun _ _ => rfl
  own := own
  effects := fine

/-- What other parts of the group are does not matter. -/
theorem of_callers {other : Group} {result : Group × List Effect}
    (progress : Progress right other call key result) (name : other.name = group.name)
    (callers : other.callers = group.callers) : Progress right group call key result where
  name := progress.name.trans name
  sound := progress.sound
  others := by
    intro another different
    rw [progress.others another different, caller?, caller?, callers]
  own := progress.own
  effects := progress.effects

/-- Reports and wakes may come first. -/
theorem after {result : Group × List Effect} (progress : Progress right group call key result)
    (first : List Effect) (fits : ∀ effect ∈ first, effect.Fits right result.1 call key) :
    Progress right group call key (result.1, first ++ result.2) where
  name := progress.name
  sound := progress.sound
  others := progress.others
  own := progress.own
  effects := by
    intro effect present
    rcases List.mem_append.mp present with early | late
    · exact fits effect early
    · exact progress.effects effect late

end Progress

section Parts

variable {right : String → Outcome → Prop} {lookupKey sourceKey : Nat → String} {group : Group}
  {call : Nat} {key : String}

theorem fits_wakes (woken : List Nat) (next : Group) :
    ∀ effect ∈ woken.map Effect.wake, effect.Fits right next call key := by
  intro effect present
  obtain ⟨other, _, rfl⟩ := List.mem_map.mp present
  exact True.intro

theorem fits_logs (reports : List Log) (next : Group) :
    ∀ effect ∈ reports.map Effect.log, effect.Fits right next call key := by
  intro effect present
  obtain ⟨entry, _, rfl⟩ := List.mem_map.mp present
  exact True.intro

theorem progress_setStage (sound : group.Sound right lookupKey sourceKey) {stage : Stage}
    (fits : Caller.Fits lookupKey sourceKey group ⟨key, stage⟩) {effects : List Effect}
    (fine : ∀ effect ∈ effects, effect.Fits right (group.setStage call key stage) call key) :
    Progress right group call key (group.setStage call key stage, effects) where
  name := rfl
  sound := ⟨lookupKey, sourceKey, sound.setStage call fits⟩
  others := by
    intro other different
    rw [caller?_setStage, if_neg different]
  own := by
    intro caller found
    rw [caller?_setStage, if_pos rfl] at found
    cases found
    rfl
  effects := fine

theorem progress_withdraw (sound : group.Sound right lookupKey sourceKey) {lookup : Option Nat}
    {outcome : Outcome}
    (belongs : ∀ ticket, lookup = some ticket → group.lookups.Belongs lookupKey ticket key)
    (holds : right key outcome) :
    Progress right group call key ((group.forget call).settleLookup key outcome lookup) where
  name := name_settleLookup _ key outcome lookup
  sound := ⟨lookupKey, sourceKey, (sound.forget call).settleLookup belongs holds⟩
  others := by
    intro other different
    rw [caller?_withdrawn, if_neg different]
  own := by
    intro caller found
    rw [caller?_withdrawn, if_pos rfl] at found
    cases found
  effects := by
    obtain ⟨woken, same⟩ := effects_settleLookup (group.forget call) key outcome lookup
    rw [same]
    exact fits_wakes woken _

theorem progress_finish (sound : group.Sound right lookupKey sourceKey) {lookup : Option Nat}
    {outcome : Outcome}
    (belongs : ∀ ticket, lookup = some ticket → group.lookups.Belongs lookupKey ticket key)
    (holds : right key outcome) :
    Progress right group call key (group.finish call key lookup outcome) := by
  refine (progress_withdraw sound belongs holds).after [.finish call outcome] ?_
  intro effect present
  rw [List.mem_singleton.mp present]
  refine ⟨rfl, ?_, holds⟩
  rw [caller?_withdrawn, if_pos rfl]

theorem progress_loadLocally (sound : group.Sound right lookupKey sourceKey)
    {lookup : Option Nat}
    (belongs : ∀ ticket, lookup = some ticket → group.lookups.Belongs lookupKey ticket key) :
    Progress right group call key (group.loadLocally call key lookup) := by
  cases found : group.sourceRuns.running.lookup key with
  | some ticket =>
      have shared := sound.sourceRuns.running key ticket found
      have fits : Caller.Fits lookupKey sourceKey group ⟨key, .waiting lookup ticket⟩ := by
        refine ⟨belongs, ?_⟩
        rintro _ ⟨⟩
        exact shared
      rw [loadLocally, Flight.enter_of_running found]
      exact progress_setStage sound fits (by simp)
  | none =>
      have led := Flight.belongs_register sourceKey group.sourceRuns key
      have started := sound.startSource key (group.localLoads + 1)
      have fits : Caller.Fits lookupKey (group.sourceRuns.assign sourceKey key)
          { group with
            sourceRuns := group.sourceRuns.register key
            localLoads := group.localLoads + 1 } ⟨key, .loading lookup group.sourceRuns.issued⟩ := by
        refine ⟨belongs, ?_⟩
        rintro _ ⟨⟩
        exact led
      rw [loadLocally, Flight.enter_of_free found]
      refine (progress_setStage started fits ?_).of_callers rfl rfl
      simp [Effect.Fits, report]

theorem progress_beginLookup (choose : Choice) (sound : group.Sound right lookupKey sourceKey)
    {ticket : Nat} (belongs : group.lookups.Belongs lookupKey ticket key) :
    Progress right group call key (beginLookup choose group call key ticket) := by
  rw [beginLookup]
  generalize (if group.attached then choose key else (none, [])) = choice
  obtain ⟨address?, reports⟩ := choice
  cases address? with
  | some address =>
      have fits : Caller.Fits lookupKey sourceKey group ⟨key, .fetching ticket address⟩ := by
        constructor
        · rintro _ ⟨⟩
          exact belongs
        · rintro _ ⟨⟩
      refine (progress_setStage sound fits ?_).after _ (fits_logs reports _)
      simp [Effect.Fits, report, caller?_setStage]
  | none =>
      have led : ∀ other, some ticket = some other → group.lookups.Belongs lookupKey other key := by
        rintro _ ⟨⟩
        exact belongs
      exact (progress_loadLocally sound led).after _ (fits_logs reports _)

theorem progress_lookUp (choose : Choice) (sound : group.Sound right lookupKey sourceKey) :
    Progress right group call key (lookUp choose group call key) := by
  cases found : group.lookups.running.lookup key with
  | some ticket =>
      have shared := sound.lookups.running key ticket found
      have fits : Caller.Fits lookupKey sourceKey group ⟨key, .joined ticket⟩ := by
        constructor
        · rintro _ ⟨⟩
          exact shared
        · rintro _ ⟨⟩
      rw [lookUp, Flight.enter_of_running found]
      exact progress_setStage sound fits (by simp)
  | none =>
      have led := Flight.belongs_register lookupKey group.lookups key
      rw [lookUp, Flight.enter_of_free found]
      exact (progress_beginLookup choose (sound.startLookup key) led).of_callers rfl rfl

/-- A new call ends at once, or goes on as it may with what the cache does not have. -/
theorem progress_readThrough (sound : group.Sound right lookupKey sourceKey) (note : String)
    {missing : Group → Group × List Effect}
    (own : ∀ caller, group.caller? call = some caller → caller.key = key)
    (refused : key = "" → right key (.error .invalidKey))
    (goesOn : ∀ other : Group, other.Sound right lookupKey sourceKey →
      Progress right other call key (missing other)) :
    Progress right group call key (group.readThrough call key note missing) := by
  rw [readThrough]
  split
  · exact .stay sound own (by simp)
  · rename_i new
    have unknown : group.caller? call = none := by simpa using new
    split
    · rename_i isEmpty
      have holds := refused (by simpa using isEmpty)
      exact .stay sound own (by simp [Effect.Fits, unknown, holds])
    · have remaining : { group with cache := (group.cache.get key).2 }.Sound right lookupKey
          sourceKey := ⟨sound.cached.get key, sound.lookups, sound.sourceRuns, sound.callers⟩
      split
      · rename_i value cache found
        have holds := sound.cached.value (congrArg Prod.fst found)
        rw [found] at remaining
        refine (Progress.stay remaining own ?_).of_callers rfl rfl
        have absent : { group with cache }.caller? call = none := unknown
        simp [Effect.Fits, report, absent, holds]
      · rename_i cache found
        rw [found] at remaining
        exact (goesOn _ remaining).of_callers rfl rfl

end Parts

/-! ## Steps -/

def Event.call : Event → Nat
  | .get call _ => call
  | .getForPeer call _ => call
  | .fetched call _ _ => call
  | .loaded call _ => call
  | .resume call => call
  | .drop call => call

/-- An event brings a call for the key only what is right for it. -/
def Event.Admissible (right : String → Outcome → Prop) (group : Group) (key : String) :
    Event → Prop
  | .get _ asked => asked = key ∧ (key = "" → right key (.error .invalidKey))
  | .getForPeer _ asked => asked = key ∧ (key = "" → right key (.error .invalidKey))
  | .fetched _ _ (.ok value) => right key (.ok value)
  | .fetched _ _ (.error _) => True
  | .loaded call result => ∀ lookup ticket,
      group.caller? call = some ⟨key, .loading lookup ticket⟩ → right key (outcomeOf result)
  | .resume _ => True
  | .drop _ => right key (.error .cancelled)

section Steps

variable {right : String → Outcome → Prop} {lookupKey sourceKey : Nat → String} {group : Group}
  {call : Nat} {key : String}

theorem progress_fetched (sound : group.Sound right lookupKey sourceKey)
    (own : ∀ caller, group.caller? call = some caller → caller.key = key) (choose : Choice)
    (elapsed : Span) {result : Except Causes Bytes}
    (admissible : Event.Admissible right group key (.fetched call elapsed result)) :
    Progress right group call key (group.step choose (.fetched call elapsed result)) := by
  rw [step]
  split
  · rename_i other ticket address found
    obtain rfl : other = key := own _ found
    have leads := (sound.callers call _ found).1
    cases result with
    | ok value =>
        have counted : { group with
            latency := group.latency.addSpan elapsed
            peerLoads := group.peerLoads + 1 }.Sound right lookupKey sourceKey :=
          ⟨sound.cached, sound.lookups, sound.sourceRuns, sound.callers⟩
        have finished : Progress right group call other _ :=
          (progress_finish counted leads admissible).of_callers rfl rfl
        exact finished
    | error causes =>
        have counted : { group with
            latency := group.latency.addSpan elapsed
            peerErrors := group.peerErrors + 1 }.Sound right lookupKey sourceKey :=
          ⟨sound.cached, sound.lookups, sound.sourceRuns, sound.callers⟩
        have loading : Progress right group call other _ :=
          (progress_loadLocally counted leads).of_callers rfl rfl
        exact loading.after [group.fetchReport other address causes]
          (by simp [Effect.Fits, fetchReport])
  · exact .stay sound own (by simp)

/-- The outcome of a run of the data source reaches the run, the lookup and the call. -/
theorem progress_publish (sound : group.Sound right lookupKey sourceKey) {lookup : Option Nat}
    {ticket : Nat} {outcome : Outcome}
    (leads : ∀ other, lookup = some other → group.lookups.Belongs lookupKey other key)
    (runs : group.sourceRuns.Belongs sourceKey ticket key) (holds : right key outcome) :
    Progress right group call key
      (((group.settleSource key ticket outcome).1.finish call key lookup outcome).1,
        (group.settleSource key ticket outcome).2 ++
          ((group.settleSource key ticket outcome).1.finish call key lookup outcome).2) := by
  have settled := sound.settleSource runs holds
  have finished : Progress right group call key _ :=
    (progress_finish settled leads holds).of_callers rfl rfl
  exact finished.after _ (fits_wakes (group.sourceWaiters ticket) _)

theorem progress_loaded (sound : group.Sound right lookupKey sourceKey)
    (own : ∀ caller, group.caller? call = some caller → caller.key = key) (choose : Choice)
    {result : Except Causes Bytes}
    (admissible : Event.Admissible right group key (.loaded call result)) :
    Progress right group call key (group.step choose (.loaded call result)) := by
  rw [step]
  split
  · rename_i other lookup ticket found
    obtain rfl : other = key := own _ found
    obtain ⟨leads, runs⟩ := sound.callers call _ found
    have holds := admissible lookup ticket found
    have kept := sound.keep holds
    cases result with
    | ok value => exact (progress_publish kept leads (runs ticket rfl) holds).of_callers rfl rfl
    | error causes => exact progress_publish kept leads (runs ticket rfl) holds
  · exact .stay sound own (by simp)

theorem progress_resume (sound : group.Sound right lookupKey sourceKey)
    (own : ∀ caller, group.caller? call = some caller → caller.key = key) (choose : Choice) :
    Progress right group call key (group.step choose (.resume call)) := by
  rw [step]
  split
  · rename_i other ticket found
    obtain rfl : other = key := own _ found
    have shared := (sound.callers call _ found).1 ticket rfl
    split
    · rename_i outcome published
      exact progress_finish sound (by simp) (sound.lookups.outcome shared published)
    · exact .stay sound own (by simp)
  · rename_i other lookup ticket found
    obtain rfl : other = key := own _ found
    obtain ⟨leads, waits⟩ := sound.callers call _ found
    split
    · rename_i outcome published
      exact progress_finish sound leads (sound.sourceRuns.outcome (waits ticket rfl) published)
    · exact .stay sound own (by simp)
  · exact .stay sound own (by simp)

/-- A call that is dropped is gone, and only those that waited for it are told. -/
theorem step_drop (choose : Choice) (group : Group) (call : Nat) :
    (group.step choose (.drop call)).1.caller? call = none ∧
      ∃ woken : List Nat, (group.step choose (.drop call)).2 = woken.map .wake := by
  have gone (other : Group) (key : String) (lookup : Option Nat) :=
    (caller?_withdrawn other call call key (.error .cancelled) lookup).trans (if_pos rfl)
  have told (key : String) (lookup : Option Nat) :=
    effects_settleLookup (group.forget call) key (.error .cancelled) lookup
  rw [step]
  split
  · exact ⟨gone group "" none, [], rfl⟩
  · rename_i key ticket address found
    exact ⟨gone group key (some ticket), told key (some ticket)⟩
  · rename_i key lookup ticket found
    exact ⟨gone group key lookup, told key lookup⟩
  · rename_i key lookup ticket found
    refine ⟨gone (group.settleSource key ticket (.error .cancelled)).1 key lookup, ?_⟩
    obtain ⟨woken, same⟩ := effects_settleLookup
      ((group.forget call).settleSource key ticket (.error .cancelled)).1 key (.error .cancelled)
      lookup
    refine ⟨(group.forget call).sourceWaiters ticket ++ woken, ?_⟩
    rw [List.map_append, ← same]
    rfl
  · rename_i unknown
    exact ⟨unknown, [], rfl⟩

theorem progress_drop (sound : group.Sound right lookupKey sourceKey)
    (own : ∀ caller, group.caller? call = some caller → caller.key = key) (choose : Choice)
    (holds : right key (.error .cancelled)) :
    Progress right group call key (group.step choose (.drop call)) := by
  rw [step]
  split
  · rename_i other ticket found
    obtain rfl : other = key := own _ found
    have leads : ∀ ticket, none = some ticket → group.lookups.Belongs lookupKey ticket other := by
      simp
    exact progress_withdraw sound leads holds
  · rename_i other ticket address found
    obtain rfl : other = key := own _ found
    have leads := (sound.callers call _ found).1
    exact progress_withdraw sound leads holds
  · rename_i other lookup ticket found
    obtain rfl : other = key := own _ found
    have leads := (sound.callers call _ found).1
    exact progress_withdraw sound leads holds
  · rename_i other lookup ticket found
    obtain rfl : other = key := own _ found
    obtain ⟨leads, runs⟩ := sound.callers call _ found
    have settled := sound.settleSource (runs ticket rfl) holds
    have withdrawn : Progress right group call other _ :=
      (progress_withdraw settled leads holds).of_callers rfl rfl
    exact withdrawn.after _ (fits_wakes ((group.forget call).sourceWaiters ticket) _)
  · exact .stay sound own (by simp)

/-- Whatever happens, a sound group goes on soundly with the call of the event. -/
theorem progress_step (sound : group.Sound right lookupKey sourceKey) (choose : Choice)
    {event : Event}
    (own : ∀ caller, group.caller? event.call = some caller → caller.key = key)
    (admissible : event.Admissible right group key) :
    Progress right group event.call key (group.step choose event) := by
  cases event with
  | get call asked =>
      obtain ⟨rfl, refused⟩ := admissible
      exact progress_readThrough sound "" own refused fun other soundOther =>
        progress_lookUp choose soundOther
  | getForPeer call asked =>
      obtain ⟨rfl, refused⟩ := admissible
      exact progress_readThrough sound " (peer request)" own refused fun other soundOther =>
        progress_loadLocally soundOther (by simp)
  | fetched call elapsed result => exact progress_fetched sound own choose elapsed admissible
  | loaded call result => exact progress_loaded sound own choose admissible
  | resume call => exact progress_resume sound own choose
  | drop call => exact progress_drop sound own choose admissible

end Steps

end ReadThrough.Group
