import ReadThrough.Proofs.Group.Answers

/-!
# What an event does to a group

Every event is one of ten transitions.  A request is refused, answered from the
cache, or joins a lookup, fetches, or needs the data source; a call whose fetch
failed needs the data source as well.  Whoever needs the data source waits for
a run or starts one.  A call that ends, whether with an answer or because it is
dropped, leaves an outcome to the lookup that it leads.
-/

namespace ReadThrough.Group

/-! ## Requests and what they ask for -/

structure Request where
  key : String
  forPeer : Bool
  deriving DecidableEq, Repr

def Event.request? : Event → Option Request
  | .get _ key => some ⟨key, false⟩
  | .getForPeer _ key => some ⟨key, true⟩
  | .fetched .. | .loaded .. | .resume _ | .drop _ => none

/-- The event makes a request under a number that no call has. -/
structure Event.Opens (group : Group) (request : Request) (event : Event) : Prop where
  made : event.request? = some request
  new : group.caller? event.call = none

/-- The event makes a request that the cache cannot answer. -/
structure Event.Misses (group : Group) (request : Request) (event : Event) : Prop
    extends event.Opens group request where
  named : request.key ≠ ""
  missing : (group.cache.get request.key).1 = none

def Effect.asker? : Effect → Option Nat
  | .fetch call _ _ => some call
  | .load call _ => some call
  | .wake _ | .finish .. | .log _ => none

/-- What a call has asked for and not been given yet. -/
def Caller.asked? (call : Nat) (caller : Caller) : Option Effect :=
  match caller.stage with
  | .fetching _ address => some (.fetch call address caller.key)
  | .loading _ _ => some (.load call caller.key)
  | .joined _ | .waiting _ _ => none

def asked? (group : Group) (call : Nat) : Option Effect :=
  (group.caller? call).bind (Caller.asked? call)

/-- The event answers a question, or drops the call that asked it. -/
def Event.closes : Event → Effect → Bool
  | .fetched call _ _, .fetch other _ _ => other = call
  | .loaded call _, .load other _ => other = call
  | .drop call, effect => effect.asker? = some call
  | _, _ => false

/-- The data source answers a call that asked it for the value of a key. -/
def Event.Provides (group : Group) (key : String) (value : Bytes) (event : Event) : Prop :=
  event = .loaded event.call (.ok value) ∧
    group.asked? event.call = some (.load event.call key)

theorem Event.Provides.closes {group : Group} {key : String} {value : Bytes} {event : Event}
    (provides : event.Provides group key value) :
    event.closes (.load event.call key) = true := by
  obtain ⟨same, -⟩ := provides
  rw [same]
  exact decide_eq_true rfl

/-- The outcome that the event leaves to a run of the data source. -/
def Event.runOutcome? : Event → Option Outcome
  | .loaded _ result => some (outcomeOf result)
  | .drop _ => some (.error .cancelled)
  | .get .. | .getForPeer .. | .fetched .. | .resume _ => none

/-! ## Transitions -/

def read (group : Group) (key : String) : Group :=
  { group with cache := (group.cache.get key).2 }

def leadLookup (group : Group) (key : String) : Group :=
  { group with lookups := group.lookups.register key }

def leadRun (group : Group) (key : String) : Group :=
  { group with
    sourceRuns := group.sourceRuns.register key
    localLoads := group.localLoads + 1 }

/-- The node to which a key belongs, if the group asks for it. -/
def pick (choose : Choice) (group : Group) (key : String) : Option String × List Log :=
  if group.attached then choose key else (none, [])

/--
The call of the event needs the data source for a key and leads a lookup, if
any; until then there are the given group and effects.
-/
inductive Seeks (choose : Choice) (group : Group) :
    Event → String → Option Nat → Group → List Effect → Prop where
  | lookup {event : Event} {key : String} (misses : event.Misses group ⟨key, false⟩)
      (free : group.lookups.running.lookup key = none)
      (alone : (group.pick choose key).1 = none) :
      Seeks choose group event key (some group.lookups.issued) ((group.read key).leadLookup key)
        ((group.pick choose key).2.map .log)
  | peer {event : Event} {key : String} (misses : event.Misses group ⟨key, true⟩) :
      Seeks choose group event key none (group.read key) []
  | failed {call : Nat} {key : String} {ticket : Nat} {address : String} (elapsed : Span)
      (causes : Causes) (found : group.caller? call = some ⟨key, .fetching ticket address⟩) :
      Seeks choose group (.fetched call elapsed (.error causes)) key (some ticket)
        { group with
          latency := group.latency.addSpan elapsed
          peerErrors := group.peerErrors + 1 }
        [group.fetchReport key address causes]

/--
The call of the event ends with an outcome and leaves it to the lookup that it
leads, if any; until then there are the given group and effects.
-/
inductive Ends (group : Group) :
    Event → String → Option Nat → Outcome → Group → List Effect → Prop where
  | fetched {call : Nat} {key : String} {ticket : Nat} {address : String} (elapsed : Span)
      (value : Bytes) (found : group.caller? call = some ⟨key, .fetching ticket address⟩) :
      Ends group (.fetched call elapsed (.ok value)) key (some ticket) (.ok value)
        { group with
          latency := group.latency.addSpan elapsed
          peerLoads := group.peerLoads + 1 }
        [.finish call (.ok value)]
  | loaded {call : Nat} {key : String} {lookup : Option Nat} {ticket : Nat}
      (result : Except Causes Bytes)
      (found : group.caller? call = some ⟨key, .loading lookup ticket⟩) :
      Ends group (.loaded call result) key lookup (outcomeOf result)
        ((group.keep key result).1.settleSource key ticket (outcomeOf result)).1
        ((group.sourceWaiters ticket).map .wake ++ [.finish call (outcomeOf result)])
  | waited {call : Nat} {key : String} {lookup : Option Nat} {ticket : Nat} {outcome : Outcome}
      (found : group.caller? call = some ⟨key, .waiting lookup ticket⟩)
      (published : group.sourceRuns.outcome? ticket = some outcome) :
      Ends group (.resume call) key lookup outcome group [.finish call outcome]
  | dropFetch {call : Nat} {key : String} {ticket : Nat} {address : String}
      (found : group.caller? call = some ⟨key, .fetching ticket address⟩) :
      Ends group (.drop call) key (some ticket) (.error .cancelled) group []
  | dropWait {call : Nat} {key : String} {lookup : Option Nat} {ticket : Nat}
      (found : group.caller? call = some ⟨key, .waiting lookup ticket⟩) :
      Ends group (.drop call) key lookup (.error .cancelled) group []
  | dropRun {call : Nat} {key : String} {lookup : Option Nat} {ticket : Nat}
      (found : group.caller? call = some ⟨key, .loading lookup ticket⟩) :
      Ends group (.drop call) key lookup (.error .cancelled)
        (group.settleSource key ticket (.error .cancelled)).1
        (((group.forget call).sourceWaiters ticket).map .wake)

inductive Transition (choose : Choice) (group : Group) :
    Event → Group → List Effect → Prop where
  /-- The event does not fit the stage of its call. -/
  | ignore {event : Event}
      (stale : ∀ effect, group.asked? event.call = some effect → event.closes effect = false)
      (late : ∀ request, ¬ event.Opens group request) :
      Transition choose group event group []
  /-- No key was given. -/
  | refuse {event : Event} {request : Request} (opens : event.Opens group request)
      (unnamed : request.key = "") :
      Transition choose group event group [.finish event.call (.error .invalidKey)]
  /-- The cache has the value. -/
  | hit {event : Event} {request : Request} {value : Bytes} (opens : event.Opens group request)
      (named : request.key ≠ "") (found : (group.cache.get request.key).1 = some value)
      (note : String) :
      Transition choose group event (group.read request.key)
        [group.report ("cache hit for " ++ request.key ++ note), .finish event.call (.ok value)]
  /-- A lookup of the key is running. -/
  | join {event : Event} {key : String} {ticket : Nat} (misses : event.Misses group ⟨key, false⟩)
      (running : group.lookups.running.lookup key = some ticket) :
      Transition choose group event ((group.read key).setStage event.call key (.joined ticket)) []
  /-- The lookup that a call joined has its outcome. -/
  | share {call : Nat} {key : String} {ticket : Nat} {outcome : Outcome}
      (found : group.caller? call = some ⟨key, .joined ticket⟩)
      (published : group.lookups.outcome? ticket = some outcome) :
      Transition choose group (.resume call) (group.forget call) [.finish call outcome]
  /-- A call that joined a lookup is dropped. -/
  | leave {call : Nat} {key : String} {ticket : Nat}
      (found : group.caller? call = some ⟨key, .joined ticket⟩) :
      Transition choose group (.drop call) (group.forget call) []
  /-- The key belongs to another node. -/
  | fetch {event : Event} {key address : String} (misses : event.Misses group ⟨key, false⟩)
      (free : group.lookups.running.lookup key = none)
      (picked : (group.pick choose key).1 = some address) :
      Transition choose group event
        (((group.read key).leadLookup key).setStage event.call key
          (.fetching group.lookups.issued address))
        ((group.pick choose key).2.map .log ++
          [group.report ("fetching " ++ key ++ " from " ++ address),
            .fetch event.call address key])
  /-- The data source is running for the key. -/
  | wait {event : Event} {key : String} {lookup : Option Nat} {base : Group}
      {first : List Effect} {ticket : Nat}
      (seeks : Seeks choose group event key lookup base first)
      (running : group.sourceRuns.running.lookup key = some ticket) :
      Transition choose group event (base.setStage event.call key (.waiting lookup ticket)) first
  /-- The data source is not running for the key. -/
  | load {event : Event} {key : String} {lookup : Option Nat} {base : Group}
      {first : List Effect}
      (seeks : Seeks choose group event key lookup base first)
      (free : group.sourceRuns.running.lookup key = none) :
      Transition choose group event
        ((base.leadRun key).setStage event.call key (.loading lookup group.sourceRuns.issued))
        (first ++ [group.report ("invoking getter for " ++ key), .load event.call key])
  /-- A call ends and leaves its outcome to the lookup that it leads. -/
  | conclude {event : Event} {key : String} {lookup : Option Nat} {outcome : Outcome}
      {base : Group} {told : List Effect} (ends : Ends group event key lookup outcome base told) :
      Transition choose group event
        ((base.forget event.call).settleLookup key outcome lookup).1
        (told ++ ((base.forget event.call).settleLookup key outcome lookup).2)

/-! ## Every step is a transition -/

section Parts

variable {choose : Choice} {group : Group} {call : Nat} {key : String}

theorem pick_eq_some {address : String} (picked : (group.pick choose key).1 = some address) :
    group.attached = true ∧ (choose key).1 = some address := by
  rw [pick] at picked
  split at picked
  · rename_i attached
    exact ⟨attached, picked⟩
  · cases picked

theorem loadLocally_of_running {ticket : Nat}
    (running : group.sourceRuns.running.lookup key = some ticket) (lookup : Option Nat) :
    group.loadLocally call key lookup =
      (group.setStage call key (.waiting lookup ticket), []) := by
  rw [loadLocally, Flight.enter_of_running running]

theorem loadLocally_of_free (free : group.sourceRuns.running.lookup key = none)
    (lookup : Option Nat) :
    group.loadLocally call key lookup =
      ((group.leadRun key).setStage call key (.loading lookup group.sourceRuns.issued),
        [group.report ("invoking getter for " ++ key), .load call key]) := by
  rw [loadLocally, Flight.enter_of_free free]
  rfl

theorem beginLookup_of_picked {address : String}
    (picked : (group.pick choose key).1 = some address) (ticket : Nat) :
    beginLookup choose group call key ticket =
      (group.setStage call key (.fetching ticket address),
        (group.pick choose key).2.map .log ++
          [group.report ("fetching " ++ key ++ " from " ++ address), .fetch call address key]) := by
  rw [beginLookup, ← pick]
  rcases choice : group.pick choose key with ⟨_ | other, reports⟩
  · rw [choice] at picked
    cases picked
  · rw [choice] at picked
    cases picked
    rfl

theorem beginLookup_alone (alone : (group.pick choose key).1 = none) (ticket : Nat) :
    beginLookup choose group call key ticket =
      ((group.loadLocally call key (some ticket)).1,
        (group.pick choose key).2.map .log ++ (group.loadLocally call key (some ticket)).2) := by
  rw [beginLookup, ← pick]
  rcases choice : group.pick choose key with ⟨_ | other, reports⟩
  · rfl
  · rw [choice] at alone
    cases alone

theorem lookUp_of_running {ticket : Nat}
    (running : group.lookups.running.lookup key = some ticket) :
    lookUp choose group call key = (group.setStage call key (.joined ticket), []) := by
  rw [lookUp, Flight.enter_of_running running]

theorem lookUp_of_free (free : group.lookups.running.lookup key = none) :
    lookUp choose group call key =
      beginLookup choose (group.leadLookup key) call key group.lookups.issued := by
  rw [lookUp, Flight.enter_of_free free]
  rfl

variable {note : String} {missing : Group → Group × List Effect}

theorem readThrough_of_known {caller : Caller} (known : group.caller? call = some caller) :
    group.readThrough call key note missing = (group, []) := by
  rw [readThrough, known]
  rfl

theorem readThrough_unnamed (new : group.caller? call = none) :
    group.readThrough call "" note missing = (group, [.finish call (.error .invalidKey)]) := by
  rw [readThrough, new]
  rfl

theorem readThrough_of_found (new : group.caller? call = none) (named : key ≠ "") {value : Bytes}
    (found : (group.cache.get key).1 = some value) :
    group.readThrough call key note missing =
      (group.read key,
        [group.report ("cache hit for " ++ key ++ note), .finish call (.ok value)]) := by
  rcases result : group.cache.get key with ⟨other, cache⟩
  obtain rfl : other = some value := by simpa [result] using found
  simp [readThrough, new, named, result, read]

theorem readThrough_of_missing (new : group.caller? call = none) (named : key ≠ "")
    (absent : (group.cache.get key).1 = none) :
    group.readThrough call key note missing = missing (group.read key) := by
  rcases result : group.cache.get key with ⟨other, cache⟩
  obtain rfl : other = none := by simpa [result] using absent
  simp [readThrough, new, named, result, read]

end Parts

section Steps

variable {choose : Choice} {group : Group} {event : Event} {key : String}

theorem caller?_setStage_self (group : Group) (call : Nat) (key : String) (stage : Stage) :
    (group.setStage call key stage).caller? call = some ⟨key, stage⟩ :=
  (caller?_setStage group call call key stage).trans (if_pos rfl)

theorem caller?_forget_self (group : Group) (call : Nat) :
    (group.forget call).caller? call = none :=
  (caller?_forget group call call).trans (if_pos rfl)

theorem caller?_withdrawn_self (group : Group) (call : Nat) (key : String) (outcome : Outcome)
    (lookup : Option Nat) :
    ((group.forget call).settleLookup key outcome lookup).1.caller? call = none :=
  (caller?_withdrawn group call call key outcome lookup).trans (if_pos rfl)

theorem asked?_of_new {call : Nat} (new : group.caller? call = none) :
    group.asked? call = none := by
  rw [asked?, new]
  rfl

theorem asked?_of_found {call : Nat} {caller : Caller}
    (found : group.caller? call = some caller) : group.asked? call = caller.asked? call := by
  rw [asked?, found]
  rfl

theorem asker?_of_asked {call : Nat} {effect : Effect} (asked : group.asked? call = some effect) :
    effect.asker? = some call := by
  obtain ⟨⟨key, stage⟩, found, same⟩ := Option.bind_eq_some_iff.mp asked
  cases stage with
  | fetching | loading =>
      cases same
      rfl
  | joined | waiting => cases same

theorem asker?_of_closes {effect : Effect} (closes : event.closes effect = true) :
    effect.asker? = some event.call := by
  cases event with
  | drop call => exact of_decide_eq_true closes
  | fetched call | loaded call =>
      cases effect with
      | fetch | load =>
          first
            | exact congrArg some (of_decide_eq_true closes)
            | cases closes
      | _ => cases closes
  | _ => cases closes

theorem asked?_setStage (group : Group) (call : Nat) (key : String) (stage : Stage) :
    (group.setStage call key stage).asked? call = Caller.asked? call ⟨key, stage⟩ :=
  asked?_of_found (caller?_setStage_self group call key stage)

theorem Seeks.sourceRuns_base {lookup : Option Nat} {base : Group} {first : List Effect}
    (seeks : Seeks choose group event key lookup base first) :
    base.sourceRuns = group.sourceRuns := by
  cases seeks <;> rfl

theorem Seeks.name_base {lookup : Option Nat} {base : Group} {first : List Effect}
    (seeks : Seeks choose group event key lookup base first) : base.name = group.name := by
  cases seeks <;> rfl

/-- Whoever needs the data source waits for a run or starts one. -/
theorem transition_loadLocally {lookup : Option Nat} {base : Group} {first : List Effect}
    (seeks : Seeks choose group event key lookup base first) :
    Transition choose group event (base.loadLocally event.call key lookup).1
      (first ++ (base.loadLocally event.call key lookup).2) := by
  cases found : group.sourceRuns.running.lookup key with
  | some ticket =>
      rw [loadLocally_of_running (seeks.sourceRuns_base ▸ found), List.append_nil]
      exact .wait seeks found
  | none =>
      rw [loadLocally_of_free (seeks.sourceRuns_base ▸ found), report, seeks.name_base,
        seeks.sourceRuns_base]
      exact .load seeks found

theorem transition_lookUp (misses : event.Misses group ⟨key, false⟩) :
    Transition choose group event ((group.read key).lookUp choose event.call key).1
      ((group.read key).lookUp choose event.call key).2 := by
  cases found : group.lookups.running.lookup key with
  | some ticket =>
      have running : (group.read key).lookups.running.lookup key = some ticket := found
      rw [lookUp_of_running running]
      exact .join misses found
  | none =>
      have free : (group.read key).lookups.running.lookup key = none := found
      rw [lookUp_of_free free]
      cases chosen : (group.pick choose key).1 with
      | some address =>
          have picked : (((group.read key).leadLookup key).pick choose key).1 = some address :=
            chosen
          rw [beginLookup_of_picked picked]
          exact .fetch misses found chosen
      | none =>
          have alone : (((group.read key).leadLookup key).pick choose key).1 = none := chosen
          rw [beginLookup_alone alone]
          exact transition_loadLocally (.lookup misses found chosen)

theorem step_unnamed {request : Request} (opens : event.Opens group request)
    (unnamed : request.key = "") :
    group.step choose event = (group, [.finish event.call (.error .invalidKey)]) := by
  obtain ⟨made, new⟩ := opens
  cases event with
  | get | getForPeer =>
      cases made
      cases unnamed
      rw [step]
      exact readThrough_unnamed new
  | _ => cases made

/-- A request is refused or answered from the cache, or goes on as it may. -/
theorem transition_readThrough {request : Request} (asks : event.request? = some request)
    (note : String) {missing : Group → Group × List Effect}
    (goesOn : event.Misses group request →
      Transition choose group event (missing (group.read request.key)).1
        (missing (group.read request.key)).2) :
    Transition choose group event
      (group.readThrough event.call request.key note missing).1
      (group.readThrough event.call request.key note missing).2 := by
  cases new : group.caller? event.call with
  | some caller =>
      rw [readThrough_of_known new]
      refine .ignore ?_ fun other opens => by cases new.symm.trans opens.new
      intro effect _
      cases event with
      | get | getForPeer => rfl
      | _ => cases asks
  | none =>
      have opens : event.Opens group request := ⟨asks, new⟩
      by_cases unnamed : request.key = ""
      · rw [unnamed, readThrough_unnamed new]
        exact .refuse opens unnamed
      · cases found : (group.cache.get request.key).1 with
        | some value =>
            rw [readThrough_of_found new unnamed found]
            exact .hit opens unnamed found note
        | none =>
            rw [readThrough_of_missing new unnamed found]
            exact goesOn ⟨opens, unnamed, found⟩

/-- An event that answers nothing to its call, and makes no request, may be ignored. -/
theorem transition_ignore (silent : event.request? = none)
    (stale : ∀ key stage, group.caller? event.call = some ⟨key, stage⟩ →
      ∀ effect, Caller.asked? event.call ⟨key, stage⟩ = some effect →
        event.closes effect = false) :
    Transition choose group event group [] := by
  refine .ignore ?_ fun request opens => by cases silent.symm.trans opens.made
  intro effect asked
  cases found : group.caller? event.call with
  | none => cases (asked?_of_new found).symm.trans asked
  | some caller => exact stale _ _ found effect ((asked?_of_found found).symm.trans asked)

theorem transition_fetched (call : Nat) (elapsed : Span) (result : Except Causes Bytes) :
    Transition choose group (.fetched call elapsed result)
      (group.step choose (.fetched call elapsed result)).1
      (group.step choose (.fetched call elapsed result)).2 := by
  rw [step]
  split
  · rename_i key ticket address found
    cases result with
    | ok value => exact .conclude (.fetched elapsed value found)
    | error causes => exact transition_loadLocally (.failed elapsed causes found)
  · rename_i unfit
    refine transition_ignore rfl fun key stage found effect asked => ?_
    cases stage with
    | fetching ticket address => exact absurd found (unfit key ticket address)
    | loading =>
        cases asked
        rfl
    | joined | waiting => cases asked

theorem transition_loaded (call : Nat) (result : Except Causes Bytes) :
    Transition choose group (.loaded call result) (group.step choose (.loaded call result)).1
      (group.step choose (.loaded call result)).2 := by
  rw [step]
  split
  · rename_i key lookup ticket found
    have ended : Transition choose group (.loaded call result) _ _ :=
      .conclude (.loaded result found)
    rw [List.append_assoc] at ended
    cases result with
    | ok value => exact ended
    | error causes => exact ended
  · rename_i unfit
    refine transition_ignore rfl fun key stage found effect asked => ?_
    cases stage with
    | loading lookup ticket => exact absurd found (unfit key lookup ticket)
    | fetching =>
        cases asked
        rfl
    | joined | waiting => cases asked

theorem transition_resume (call : Nat) :
    Transition choose group (.resume call) (group.step choose (.resume call)).1
      (group.step choose (.resume call)).2 := by
  have late : Transition choose group (.resume call) group [] :=
    transition_ignore rfl fun _ _ _ _ _ => rfl
  rw [step]
  split
  · rename_i key ticket found
    split
    · rename_i outcome published
      exact .share found published
    · exact late
  · rename_i key lookup ticket found
    split
    · rename_i outcome published
      exact .conclude (.waited found published)
    · exact late
  · exact late

theorem transition_drop (call : Nat) :
    Transition choose group (.drop call) (group.step choose (.drop call)).1
      (group.step choose (.drop call)).2 := by
  rw [step]
  split
  · rename_i key ticket found
    exact .leave found
  · rename_i key ticket address found
    exact .conclude (.dropFetch found)
  · rename_i key lookup ticket found
    exact .conclude (.dropWait found)
  · rename_i key lookup ticket found
    exact .conclude (.dropRun found)
  · rename_i unknown
    exact transition_ignore rfl fun key stage found => by cases unknown.symm.trans found

/-- Every step of a group is one of the transitions. -/
theorem transition (choose : Choice) (group : Group) (event : Event) :
    Transition choose group event (group.step choose event).1 (group.step choose event).2 := by
  cases event with
  | get call key =>
      have asks : Event.request? (.get call key) = some ⟨key, false⟩ := rfl
      exact transition_readThrough asks "" transition_lookUp
  | getForPeer call key =>
      have asks : Event.request? (.getForPeer call key) = some ⟨key, true⟩ := rfl
      exact transition_readThrough asks " (peer request)" fun misses =>
        transition_loadLocally (.peer misses)
  | fetched call elapsed result => exact transition_fetched call elapsed result
  | loaded call result => exact transition_loaded call result
  | resume call => exact transition_resume call
  | drop call => exact transition_drop call

end Steps

end ReadThrough.Group
