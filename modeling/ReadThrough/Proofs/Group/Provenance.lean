import ReadThrough.Proofs.Group.History

/-!
# Where the answers of a group come from

A call for another node is given a value only if the data source returned it
for the key.  A call of a client may also be given what another node returned,
to a fetch of the key that ended while the call was pending.  What the cache
has is what the data source returned last.
-/

namespace ReadThrough.Group

section Past

variable (start : Group)

/-- The data source returns a value, having been asked for that of the key. -/
def Returns (key : String) (value : Bytes) (before : List Action) (action : Action) : Prop :=
  ∃ choose call, action = .step choose (.loaded call (.ok value)) ∧
    Outstanding start before (.load call key)

/-- A node that was asked for the value of the key returns it. -/
def Sends (key : String) (value : Bytes) (before : List Action) (action : Action) : Prop :=
  ∃ choose call address elapsed, action = .step choose (.fetched call elapsed (.ok value)) ∧
    Outstanding start before (.fetch call address key)

variable (moves : List Action)

/-- The data source returned the value for the key. -/
def Loaded (key : String) (value : Bytes) : Prop :=
  Since (Returns start key value) (fun _ _ => True) moves

/-- The value is the last one that the data source returned for the key. -/
def LoadedLast (key : String) (value : Bytes) : Prop :=
  Since (Returns start key value)
    (fun before action => ∀ other, ¬ Returns start key other before action) moves

/-- The call was made and has not ended. -/
def Pending (call : Nat) : Prop := (start.run moves).1.caller? call ≠ none

/-- While the call was pending, a node that was asked for the value of the key returned it. -/
def FetchedFor (call : Nat) (key : String) (value : Bytes) : Prop :=
  Since (fun before action => Sends start key value before action ∧ Pending start before call)
    (fun before _ => Pending start before call) moves

/-- The outcome comes from the data source. -/
def FromSource (key : String) : Outcome → Prop
  | .ok value => Loaded start moves key value
  | .error error => ∃ failure, error = .source failure

/-- The outcome comes from the data source or from another node. -/
def FromLookup (call : Nat) (key : String) (outcome : Outcome) : Prop :=
  FromSource start moves key outcome ∨
    ∃ value, outcome = .ok value ∧ FetchedFor start moves call key value

end Past

theorem LoadedLast.loaded {start : Group} {moves : List Action} {key : String} {value : Bytes}
    (last : LoadedLast start moves key value) : Loaded start moves key value :=
  last.mono (fun _ _ returned => returned) fun _ _ _ => True.intro

section Later

variable {start : Group} {moves : List Action} {call : Nat} {key : String} {outcome : Outcome}

theorem pending_of_found {caller : Caller}
    (found : (start.run moves).1.caller? call = some caller) : Pending start moves call := by
  rw [Pending, found]
  exact Option.some_ne_none caller

theorem Loaded.later {value : Bytes} (loaded : Loaded start moves key value) (action : Action) :
    Loaded start (moves ++ [action]) key value :=
  Since.later loaded True.intro

theorem FromSource.later (source : FromSource start moves key outcome) (action : Action) :
    FromSource start (moves ++ [action]) key outcome := by
  cases outcome with
  | ok value => exact Loaded.later source action
  | error => exact source

/-- What came from a lookup still does for a call that has not ended. -/
theorem FromLookup.later (lookup : FromLookup start moves call key outcome)
    (pending : Pending start moves call) (action : Action) :
    FromLookup start (moves ++ [action]) call key outcome := by
  rcases lookup with source | ⟨value, rfl, fetched⟩
  · exact Or.inl (source.later action)
  · exact Or.inr ⟨value, rfl, Since.later fetched pending⟩

end Later

section Start

variable (name : String) (budget : Nat)

theorem returns_step {history : List Action} {choose : Choice} {event : Event} {key : String}
    {value : Bytes} :
    Returns (empty name budget) key value history (.step choose event) ↔
      event.Provides ((empty name budget).run history).1 key value := by
  constructor
  · rintro ⟨_, call, same, asked⟩
    cases same
    exact ⟨rfl, (asked?_run name budget history call _).mpr ⟨rfl, asked⟩⟩
  · rintro ⟨same, asked⟩
    refine ⟨choose, event.call, congrArg _ same, ?_⟩
    exact ((asked?_run name budget history _ _).mp asked).2

/-- What the cache has is what the data source returned last. -/
theorem cached_run (moves : List Action) {entry : Cache.Entry Bytes}
    (present : entry ∈ ((empty name budget).run moves).1.cache.entries) :
    LoadedLast (empty name budget) moves entry.key entry.value := by
  induction moves using run_induction (empty name budget) with
  | nil => cases present
  | attach history attached same ih =>
      rw [same] at present
      refine Since.later (ih present) ?_
      rintro other ⟨choose, call, impossible, -⟩
      cases impossible
  | step history choose event stepped ih =>
      rcases stepped.entries present with ⟨old, unchanged⟩ | provides
      · refine Since.later (ih old) fun other returns => unchanged other ?_
        exact (returns_step name budget).mp returns
      · exact Since.now ((returns_step name budget).mpr provides)

end Start

section Steps

variable {name : String} {budget : Nat} {history : List Action} {choose : Choice} {event : Event}
  {key : String} {outcome : Outcome}

theorem loaded_of_provides (choose : Choice) {value : Bytes}
    (provides : event.Provides ((empty name budget).run history).1 key value) :
    Loaded (empty name budget) (history ++ [.step choose event]) key value :=
  Since.now ((returns_step name budget).mpr provides)

/-- What a run of the data source leaves comes from the data source. -/
theorem fromSource_runOutcome {lookup : Option Nat} {ticket : Nat}
    (found : ((empty name budget).run history).1.caller? event.call =
      some ⟨key, .loading lookup ticket⟩)
    (left : event.runOutcome? = some outcome) :
    FromSource (empty name budget) (history ++ [.step choose event]) key outcome := by
  cases event with
  | loaded call result =>
      cases left
      cases result with
      | ok value =>
          have provides : Event.Provides ((empty name budget).run history).1 key value
              (.loaded call (.ok value)) := ⟨rfl, asked?_of_found found⟩
          exact loaded_of_provides choose provides
      | error causes => exact ⟨.reported causes, rfl⟩
  | drop call =>
      cases left
      exact ⟨.cancelled, rfl⟩
  | _ => cases left

/-- A call that waits for a run of the data source gets its outcome from there. -/
theorem fromSource_waiting (moves : List Action) {call : Nat} {lookup : Option Nat} {ticket : Nat}
    (found : ((empty name budget).run moves).1.caller? call =
      some ⟨key, .waiting lookup ticket⟩)
    (published : ((empty name budget).run moves).1.sourceRuns.outcome? ticket = some outcome) :
    FromSource (empty name budget) moves key outcome := by
  induction moves using run_induction (empty name budget) with
  | nil => cases found
  | attach history attached same ih =>
      rw [same] at found published
      exact (ih found published).later .attach
  | step history choose event stepped ih =>
      obtain ⟨-, lookupKey, sourceKey, sound⟩ := sound_run name budget history
      rcases stepped.waitsFor found with old | ⟨same, running⟩
      · rcases stepped.sourceRuns.published published with before | ⟨led, ⟨_, leads⟩, leaves⟩
        · exact (ih old before).later _
        · obtain rfl : led = key := sound.key_of_sourceRun leads old rfl rfl
          exact fromSource_runOutcome leads leaves
      · -- The run that the call has just joined is going on, so it has no outcome.
        have unsettled := (unsettled_run name budget history).2 key ticket running
        rw [same, unsettled] at published
        cases published

/--
What a call leaves to the lookup that it leads comes from the data source, or
has just been sent by another node, whoever is pending.
-/
theorem fromSource_or_fetched_of_ends {lookup : Option Nat} {base : Group} {told : List Effect}
    (ends : Ends ((empty name budget).run history).1 event key lookup outcome base told) :
    FromSource (empty name budget) (history ++ [.step choose event]) key outcome ∨
      lookup ≠ none ∧ ∃ value, outcome = .ok value ∧
        ∀ call, Pending (empty name budget) history call →
          FetchedFor (empty name budget) (history ++ [.step choose event]) call key value := by
  cases ends with
  | fetched elapsed value found =>
      have asked := (asked?_run name budget history _ _).mp (asked?_of_found found)
      refine Or.inr ⟨by simp, value, rfl, fun call pending => Since.now ⟨?_, pending⟩⟩
      exact ⟨choose, _, _, elapsed, rfl, asked.2⟩
  | loaded result found => exact Or.inl (fromSource_runOutcome found rfl)
  | waited found published => exact Or.inl ((fromSource_waiting history found published).later _)
  | dropFetch | dropWait | dropRun => exact Or.inl ⟨.cancelled, rfl⟩

/-- A call that joined a lookup gets its outcome from the data source or from another node. -/
theorem fromLookup_joined (moves : List Action) {call : Nat} {ticket : Nat}
    (found : ((empty name budget).run moves).1.caller? call = some ⟨key, .joined ticket⟩)
    (published : ((empty name budget).run moves).1.lookups.outcome? ticket = some outcome) :
    FromLookup (empty name budget) moves call key outcome := by
  induction moves using run_induction (empty name budget) with
  | nil => cases found
  | attach history attached same ih =>
      rw [same] at found published
      exact (ih found published).later (pending_of_found found) .attach
  | step history choose event stepped ih =>
      obtain ⟨-, lookupKey, sourceKey, sound⟩ := sound_run name budget history
      rcases stepped.joins found with old | ⟨same, running⟩
      · have pending := pending_of_found old
        rcases stepped.lookups.published published with before | ⟨led, base, told, ends⟩
        · exact (ih old before).later pending _
        · obtain ⟨stage, leads, carries⟩ := ends.found
          obtain rfl : led = key := sound.key_of_lookup leads old carries rfl
          -- What has just been sent reaches every pending call, and this one is pending.
          refine (fromSource_or_fetched_of_ends ends).imp_right ?_
          rintro ⟨-, value, rfl, fetched⟩
          exact ⟨value, rfl, fetched call pending⟩
      · have unsettled := (unsettled_run name budget history).1 key ticket running
        rw [same, unsettled] at published
        cases published

end Steps

/-! ## Answers -/

/-- The outcome is right for a request. -/
def Answers (start : Group) (moves : List Action) (call : Nat) (request : Request) :
    Outcome → Prop
  | .ok value =>
    Loaded start moves request.key value ∨
      request.forPeer = false ∧ FetchedFor start moves call request.key value
  | .error error =>
    (error = .invalidKey ↔ request.key = "") ∧
      (request.key ≠ "" → ∃ failure, error = .source failure)

section Answers

variable {start : Group} {moves : List Action} {call : Nat} {request : Request} {outcome : Outcome}

theorem FromSource.answers (source : FromSource start moves request.key outcome)
    (named : request.key ≠ "") : Answers start moves call request outcome := by
  cases outcome with
  | ok value => exact Or.inl source
  | error error =>
      obtain ⟨failure, rfl⟩ := source
      exact ⟨by simp [named], fun _ => ⟨failure, rfl⟩⟩

theorem FromLookup.answers (lookup : FromLookup start moves call request.key outcome)
    (named : request.key ≠ "") (client : request.forPeer = false) :
    Answers start moves call request outcome := by
  rcases lookup with source | ⟨value, rfl, fetched⟩
  · exact source.answers named
  · exact Or.inr ⟨client, fetched⟩

end Answers

section Finish

variable {name : String} {budget : Nat} {history : List Action} {choose : Choice} {event : Event}

theorem answers_of_finish {call : Nat} {outcome : Outcome}
    (finish : .finish call outcome ∈ (((empty name budget).run history).1.step choose event).2) :
    ∃ request, Made (empty name budget) (history ++ [.step choose event]) call request ∧
      Answers (empty name budget) (history ++ [.step choose event]) call request outcome := by
  obtain ⟨rfl, ended⟩ :=
    (transition choose ((empty name budget).run history).1 event).finishes finish
  rcases ended with ⟨request, opens, unnamed, rfl⟩ | ⟨request, value, opens, named, rfl, found⟩ |
    ⟨key, ticket, found, published⟩ | ⟨key, lookup, base, told, ends⟩
  · refine ⟨request, Since.now ⟨rfl, opens⟩, ?_⟩
    exact ⟨by simp [unnamed], fun named => absurd unnamed named⟩
  · have holds : ((empty name budget).run history).1.cache.Holds
        (Loaded (empty name budget) history) :=
      fun entry present => (cached_run name budget history present).loaded
    exact ⟨request, Since.now ⟨rfl, opens⟩, Or.inl ((holds.value found).later _)⟩
  · obtain ⟨named, request, made, rfl, alone⟩ := made_run name budget history found
    -- Only the calls of clients take part in lookups.
    have client : request.forPeer = false :=
      Bool.eq_false_iff.mpr fun forPeer => by cases alone forPeer
    have lookup := fromLookup_joined history found published
    refine ⟨request, made.keep found _, ?_⟩
    exact (lookup.later (pending_of_found found) _).answers named client
  · obtain ⟨stage, found, leads⟩ := ends.found
    obtain ⟨named, request, made, rfl, alone⟩ := made_run name budget history found
    refine ⟨request, made.keep found _, ?_⟩
    rcases fromSource_or_fetched_of_ends ends with source | ⟨leading, value, rfl, fetched⟩
    · exact source.answers named
    · have client : request.forPeer = false :=
        Bool.eq_false_iff.mpr fun forPeer => leading (leads.symm.trans (alone forPeer))
      exact Or.inr ⟨client, fetched _ (pending_of_found found)⟩

end Finish

/--
Whatever a group has taken part in, all that it gives has a source.  It asks the
node that was chosen for a key.  A request for another node is given only what
the data source returned for the key; a client may also be given what another
node sent while the call was pending.  Without a key, a request is refused and
changes nothing; otherwise it can only fail as the data source does.  The cache
has what the data source returned last, and nothing else gets into it.
-/
theorem answers_have_sources (name : String) (budget : Nat) (history : List Action)
    (last : Action) :
    let start := empty name budget
    let group := (start.run history).1
    let next := (group.advance last).1
    let effects := (group.advance last).2
    next.name = name ∧
    (∀ call address key, .fetch call address key ∈ effects →
      ∃ choose event, last = .step choose event ∧ group.attached = true ∧
        (choose key).1 = some address) ∧
    (∀ call outcome, .finish call outcome ∈ effects →
      ∃ request, Made start (history ++ [last]) call request ∧
        Answers start (history ++ [last]) call request outcome) ∧
    (∀ call request, last.Opens group call request → request.key = "" →
      next = group ∧ effects = [.finish call (.error .invalidKey)]) ∧
    (∀ entry ∈ next.cache.entries,
      LoadedLast start (history ++ [last]) entry.key entry.value) ∧
    ∀ entry ∈ next.cache.entries, entry ∈ group.cache.entries ∨
      Returns start entry.key entry.value history last := by
  intro start group next effects
  have reached : (start.run (history ++ [last])).1 = next := by
    rw [run_concat]
  have named : next.name = name := reached ▸ (sound_run name budget (history ++ [last])).1
  have cached : ∀ entry ∈ next.cache.entries,
      LoadedLast start (history ++ [last]) entry.key entry.value := by
    rw [← reached]
    exact fun entry present => cached_run name budget (history ++ [last]) present
  cases last with
  | attach =>
      obtain ⟨attached, same⟩ := advance_attach group
      obtain ⟨changed, silent⟩ : next = group.setAttached attached ∧ effects = [] :=
        Prod.ext_iff.mp same
      have kept : next.cache = group.cache := by
        rw [changed]
        rfl
      rw [silent, kept]
      refine ⟨named, by simp, by simp, ?_, kept ▸ cached, fun entry present => Or.inl present⟩
      intro call request opens
      exact opens.elim
  | step choose event =>
      have stepped := transition choose group event
      refine ⟨named, ?_, fun call outcome => answers_of_finish, ?_, cached, ?_⟩
      · intro call address key present
        exact ⟨choose, event, rfl, pick_eq_some (stepped.fetches present)⟩
      · rintro call request ⟨rfl, opens⟩ unnamed
        exact Prod.ext_iff.mp (step_unnamed opens unnamed)
      · intro entry present
        exact (stepped.entries present).imp And.left (returns_step name budget).mpr

/-- A call that joined a fetch takes up what the other node sent. -/
theorem answers_have_sources_joined_fetch :
    let choose : Choice := fun _ => (some "http://b:13579", [])
    let start := empty "g" 0
    let history : List Action := [.attach, .step choose (.get 1 "k"), .step choose (.get 2 "k"),
      .step choose (.fetched 1 ⟨5⟩ (.ok [7]))]
    let last : Action := .step choose (.resume 2)
    .finish 2 (.ok [7]) ∈ ((start.run history).1.advance last).2 ∧
      ((start.run history).1.advance last).1.cache.entries = [] ∧
      ∃ request, Made start (history ++ [last]) 2 request ∧
        Answers start (history ++ [last]) 2 request (.ok [7]) := by
  intro choose start history last
  have ends : .finish 2 (.ok [7]) ∈ ((start.run history).1.advance last).2 := by decide
  obtain ⟨-, -, answered, -⟩ := answers_have_sources "g" 0 history last
  exact ⟨ends, by decide, answered 2 (.ok [7]) ends⟩

end ReadThrough.Group
