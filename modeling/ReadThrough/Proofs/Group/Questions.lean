import ReadThrough.Proofs.Group.Leaders

/-!
# What is asked for a key

A call asks at most one other node and then at most once the data source.  It
asks a node only when a client makes it, and the data source only if no node was
picked, if the node failed, or on behalf of another node.  At any time, at most
one answer of a node and one of the data source are outstanding for a key.
-/

namespace ReadThrough.Group

/-- What is asked on behalf of a call. -/
def questionsOf (call : Nat) (effects : List Effect) : List Effect :=
  effects.filter fun effect => effect.asker? = some call

theorem mem_questionsOf {call : Nat} {effects : List Effect} {question : Effect} :
    question ∈ questionsOf call effects ↔
      question ∈ effects ∧ question.asker? = some call := by
  simp [questionsOf]

theorem questionsOf_append (call : Nat) (first second : List Effect) :
    questionsOf call (first ++ second) = questionsOf call first ++ questionsOf call second :=
  List.filter_append ..

theorem questionsOf_silent {effects : List Effect}
    (silent : ∀ effect ∈ effects, effect.asker? = none) (call : Nat) :
    questionsOf call effects = [] := by
  refine List.filter_eq_nil_iff.mpr fun effect present => ?_
  simp [silent effect present]

/-- Reports do not ask. -/
theorem questionsOf_reported {first : List Effect}
    (silent : ∀ effect ∈ first, effect.asker? = none) {call : Nat} {question : Effect}
    (asker : question.asker? = some call) (group : Group) (message : String) :
    questionsOf call (first ++ [group.report message, question]) = [question] := by
  have asked : questionsOf call [group.report message, question] = [question] := by
    rw [questionsOf, List.filter_cons_of_neg (by simp [report, Effect.asker?]),
      List.filter_cons_of_pos (by simpa using asker), List.filter_nil]
  rw [questionsOf_append, questionsOf_silent silent, List.nil_append, asked]

/-- What the call of an event asks, if anything, and why it does. -/
inductive Asks (choose : Choice) (group : Group) (event : Event) (next : Group) :
    List Effect → Prop where
  | nobody : Asks choose group event next []
  | node {key address : String} (misses : event.Misses group ⟨key, false⟩)
      (picked : (group.pick choose key).1 = some address)
      (cache : next.cache = (group.read key).cache) :
      Asks choose group event next [.fetch event.call address key]
  | source {key : String} {lookup : Option Nat} {base : Group} {first : List Effect}
      (seeks : Seeks choose group event key lookup base first)
      (cache : next.cache = base.cache) :
      Asks choose group event next [.load event.call key]

namespace Transition

variable {choose : Choice} {group next : Group} {event : Event} {effects : List Effect}
  (transition : Transition choose group event next effects)

include transition

/-- An event asks at most one question on behalf of its call. -/
theorem questions : Asks choose group event next (questionsOf event.call effects) := by
  cases transition with
  | ignore | join | leave => exact .nobody
  | refuse | hit | share =>
      rw [questionsOf_silent (by simp [Effect.asker?, report])]
      exact .nobody
  | fetch misses free picked =>
      rw [questionsOf_reported (by simp [Effect.asker?]) rfl]
      exact .node misses picked rfl
  | wait seeks =>
      rw [questionsOf_silent seeks.asks_nobody]
      exact .nobody
  | load seeks =>
      rw [questionsOf_reported seeks.asks_nobody rfl]
      exact .source seeks rfl
  | conclude ends =>
      rw [questionsOf_append, questionsOf_silent ends.asks_nobody, questionsOf_silent]
      · exact .nobody
      · intro effect woken
        obtain ⟨call, rfl⟩ := wake_of_mem_settleLookup woken
        rfl

/-- Nothing is asked on behalf of the other calls. -/
theorem questionsOf_other {call : Nat} (other : call ≠ event.call) :
    questionsOf call effects = [] := by
  refine List.eq_nil_iff_forall_not_mem.mpr fun question present => other ?_
  obtain ⟨within, asker⟩ := mem_questionsOf.mp present
  exact (transition.asks within asker).1

/-- A node is asked for a client that the cache cannot answer. -/
theorem fetch_asked {call : Nat} {address key : String}
    (present : .fetch call address key ∈ effects) :
    call = event.call ∧ event.Misses group ⟨key, false⟩ ∧
      (group.pick choose key).1 = some address ∧ next.cache = (group.read key).cache := by
  obtain ⟨rfl, -⟩ := transition.asks present rfl
  have asked := mem_questionsOf.mpr ⟨present, rfl⟩
  have asking := transition.questions
  generalize questionsOf event.call effects = questions at asked asking
  cases asking with
  | nobody => cases asked
  | node misses picked cache =>
      cases List.mem_singleton.mp asked
      exact ⟨rfl, misses, picked, cache⟩
  | source => cases List.mem_singleton.mp asked

/-- The data source is asked for a call that needs it. -/
theorem load_asked {call : Nat} {key : String} (present : .load call key ∈ effects) :
    call = event.call ∧ ∃ lookup base first,
      Seeks choose group event key lookup base first ∧ next.cache = base.cache := by
  obtain ⟨rfl, -⟩ := transition.asks present rfl
  have asked := mem_questionsOf.mpr ⟨present, rfl⟩
  have asking := transition.questions
  generalize questionsOf event.call effects = questions at asked asking
  cases asking with
  | nobody => cases asked
  | node => cases List.mem_singleton.mp asked
  | source seeks cache =>
      cases List.mem_singleton.mp asked
      exact ⟨rfl, _, _, _, seeks, cache⟩

end Transition

/-! ## The questions of a call -/

/-- What was asked on behalf of a call since the last request under its number, in this order. -/
inductive Inquiries (start : Group) (call : Nat) (request : Request) :
    List Action → List Effect → Prop where
  | made {history : List Action} {action : Action}
      (opens : action.Opens (start.run history).1 call request) :
      Inquiries start call request (history ++ [action])
        (questionsOf call ((start.run history).1.advance action).2)
  | later {history : List Action} {action : Action} {questions : List Effect}
      (inquiries : Inquiries start call request history questions)
      (stays : ∀ other, ¬ action.Opens (start.run history).1 call other) :
      Inquiries start call request (history ++ [action])
        (questions ++ questionsOf call ((start.run history).1.advance action).2)

/-- What may be asked for a request, in this order. -/
inductive Request.Permits (call : Nat) (request : Request) : List Effect → Prop where
  | nothing : request.Permits call []
  | source : request.Permits call [.load call request.key]
  | node (client : request.forPeer = false) (address : String) :
      request.Permits call [.fetch call address request.key]
  | both (client : request.forPeer = false) (address : String) :
      request.Permits call [.fetch call address request.key, .load call request.key]

/-- A call may ask the data source after it has asked a node, and only for the same key. -/
theorem Request.Permits.source_after_node {call : Nat} {request : Request} {initial : List Effect}
    {address key : String} (permits : request.Permits call (initial ++ [.fetch call address key])) :
    key = request.key ∧ request.Permits call
      (initial ++ [.fetch call address key] ++ [.load call request.key]) := by
  have last : (initial ++ [Effect.fetch call address key]).getLast? =
      some (.fetch call address key) := List.getLast?_concat
  generalize initial ++ [Effect.fetch call address key] = questions at permits last ⊢
  cases permits with
  | nothing | source | both => cases last
  | node client =>
      cases last
      exact ⟨rfl, .both client address⟩

section Inquiries

variable {start : Group} {call : Nat} {request : Request} {moves : List Action}
  {questions : List Effect}

/-- The first event of a call asks at most one question, for its request. -/
theorem permits_opening {choose : Choice} {group next : Group} {event : Event}
    {effects : List Effect} (transition : Transition choose group event next effects)
    (opens : event.Opens group request) :
    request.Permits event.call (questionsOf event.call effects) := by
  have same {key : String} {forPeer : Bool} (misses : event.Misses group ⟨key, forPeer⟩) :
      request = ⟨key, forPeer⟩ :=
    Option.some.inj (opens.made.symm.trans misses.made)
  have asking := transition.questions
  generalize questionsOf event.call effects = questions at asking
  cases asking with
  | nobody => exact .nothing
  | node misses =>
      cases same misses
      exact .node rfl _
  | source seeks =>
      cases seeks with
      | lookup misses | peer misses =>
          cases same misses
          exact .source
      | failed elapsed causes known => cases opens.new.symm.trans known

/-- What the call of an event waits for and has not asked before is all that it asks now. -/
theorem Transition.last_question {choose : Choice} {group next : Group} {event : Event}
    {effects : List Effect} (transition : Transition choose group event next effects)
    {question : Effect} (waits : next.asked? event.call = some question) :
    questionsOf event.call effects = [question] ∨
      group.asked? event.call = some question ∧ event.closes question = false := by
  refine (transition.asked waits).imp_left fun present => ?_
  have asked := mem_questionsOf.mpr ⟨present, asker?_of_asked waits⟩
  have asking := transition.questions
  generalize questionsOf event.call effects = questions at asked asking
  cases asking with
  | nobody => cases asked
  | node | source => rw [List.mem_singleton.mp asked]

/-- A later event of a call asks nothing, unless the node that was asked has failed. -/
theorem Transition.permits_later {choose : Choice} {group next : Group} {event : Event}
    {effects : List Effect} (transition : Transition choose group event next effects)
    (permits : request.Permits event.call questions)
    (last : ∀ question, group.asked? event.call = some question →
      ∃ initial, questions = initial ++ [question])
    (stays : ∀ other, ¬ event.Opens group other) :
    request.Permits event.call (questions ++ questionsOf event.call effects) ∧
      ∀ question, next.asked? event.call = some question →
        ∃ initial, questions ++ questionsOf event.call effects = initial ++ [question] := by
  have asking := transition.questions
  have waiting (question : Effect) (waits : next.asked? event.call = some question) :=
    transition.last_question waits
  generalize questionsOf event.call effects = asked at asking waiting ⊢
  cases asking with
  | nobody =>
      rw [List.append_nil]
      refine ⟨permits, fun question waits => ?_⟩
      rcases waiting question waits with impossible | ⟨before, -⟩
      · cases impossible
      · exact last question before
  | node misses => exact absurd misses.toOpens (stays _)
  | source seeks =>
      cases seeks with
      | lookup misses | peer misses => exact absurd misses.toOpens (stays _)
      | failed elapsed causes found =>
          have before := asked?_of_found found
          obtain ⟨initial, rfl⟩ := last _ before
          obtain ⟨rfl, both⟩ := permits.source_after_node
          refine ⟨both, fun question waits => ?_⟩
          rcases waiting question waits with now | ⟨old, unanswered⟩
          · exact ⟨_, congrArg _ now⟩
          · cases before.symm.trans old
            simp [Event.closes] at unanswered

/-- Of its questions, a call waits for the answer to the last one. -/
theorem Inquiries.permits (inquiries : Inquiries start call request moves questions) :
    request.Permits call questions ∧
      ∀ question, (start.run moves).1.asked? call = some question →
        ∃ initial, questions = initial ++ [question] := by
  induction inquiries with
  | @made history action opens =>
      rw [run_concat]
      cases action with
      | attach => exact opens.elim
      | step choose event =>
          obtain ⟨rfl, opens⟩ := opens
          have stepped := Group.transition choose (start.run history).1 event
          refine ⟨permits_opening stepped opens, fun question waits => ?_⟩
          rcases stepped.last_question waits with now | ⟨before, -⟩
          · exact ⟨[], now⟩
          · cases (asked?_of_new opens.new).symm.trans before
  | @later history action questions inquiries stays ih =>
      obtain ⟨permits, last⟩ := ih
      rw [run_concat]
      cases action with
      | attach =>
          obtain ⟨attached, same⟩ := advance_attach (start.run history).1
          rw [same]
          simp only [questionsOf, List.filter_nil, List.append_nil]
          exact ⟨permits, last⟩
      | step choose event =>
          have stepped := Group.transition choose (start.run history).1 event
          by_cases own : call = event.call
          · subst own
            exact stepped.permits_later permits last fun other opens => stays other ⟨rfl, opens⟩
          · simp only [advance, stepped.questionsOf_other own, List.append_nil]
            refine ⟨permits, fun question waits => last question ?_⟩
            rw [asked?, ← stepped.frame own]
            exact waits

end Inquiries

/-! ## Outstanding answers -/

section Outstanding

variable {group : Group} {call other : Nat} {key : String}

theorem fetching_of_asked {address : String}
    (asked : group.asked? call = some (.fetch other address key)) :
    ∃ ticket, group.caller? call = some ⟨key, .fetching ticket address⟩ := by
  obtain ⟨⟨key, stage⟩, found, same⟩ := Option.bind_eq_some_iff.mp asked
  cases stage with
  | fetching ticket address =>
      cases same
      exact ⟨ticket, found⟩
  | joined | waiting | loading => cases same

theorem loading_of_asked (asked : group.asked? call = some (.load other key)) :
    ∃ lookup ticket, group.caller? call = some ⟨key, .loading lookup ticket⟩ := by
  obtain ⟨⟨key, stage⟩, found, same⟩ := Option.bind_eq_some_iff.mp asked
  cases stage with
  | loading lookup ticket =>
      cases same
      exact ⟨lookup, ticket, found⟩
  | joined | waiting | fetching => cases same

variable {name : String} {budget : Nat} {moves : List Action} {first second : Nat}

/-- For a key, at most one call waits for the data source. -/
theorem load_alone (asked : Outstanding (empty name budget) moves (.load first key))
    (again : Outstanding (empty name budget) moves (.load second key)) : first = second := by
  obtain ⟨_, ticket, found⟩ :=
    loading_of_asked ((asked?_run name budget moves first _).mpr ⟨rfl, asked⟩)
  obtain ⟨_, other, foundAgain⟩ :=
    loading_of_asked ((asked?_run name budget moves second _).mpr ⟨rfl, again⟩)
  exact (attended_run name budget moves).sourceRuns.unique ⟨_, found, rfl⟩ ⟨_, foundAgain, rfl⟩

/-- For a key, at most one call waits for another node, and for one only. -/
theorem fetch_alone {address other : String}
    (asked : Outstanding (empty name budget) moves (.fetch first address key))
    (again : Outstanding (empty name budget) moves (.fetch second other key)) :
    first = second ∧ address = other := by
  obtain ⟨_, found⟩ :=
    fetching_of_asked ((asked?_run name budget moves first _).mpr ⟨rfl, asked⟩)
  obtain ⟨_, foundAgain⟩ :=
    fetching_of_asked ((asked?_run name budget moves second _).mpr ⟨rfl, again⟩)
  obtain rfl := (attended_run name budget moves).lookups.unique ⟨_, found, rfl⟩
    ⟨_, foundAgain, rfl⟩
  cases found.symm.trans foundAgain
  exact ⟨rfl, rfl⟩

/--
The data source is asked for a new call that the cache cannot answer, if it is
made for another node or no node was picked, or for a call whose node has failed.
-/
theorem load_justified {history : List Action} {choose : Choice} {event : Event}
    (asked : .load call key ∈ (((empty name budget).run history).1.step choose event).2) :
    let group := ((empty name budget).run history).1
    (∃ request, event.Opens group request ∧ event.call = call ∧ request.key = key ∧
        (request.forPeer = false → (group.pick choose key).1 = none)) ∨
      ∃ address elapsed causes, event = .fetched call elapsed (.error causes) ∧
        Outstanding (empty name budget) history (.fetch call address key) := by
  intro group
  obtain ⟨rfl, lookup, base, first, seeks, -⟩ := (transition choose group event).load_asked asked
  cases seeks with
  | lookup misses _ alone => exact Or.inl ⟨_, misses.toOpens, rfl, rfl, fun _ => alone⟩
  | peer misses =>
      refine Or.inl ⟨_, misses.toOpens, rfl, rfl, ?_⟩
      rintro ⟨⟩
  | failed elapsed causes found =>
      have waits := (asked?_run name budget history _ _).mp (asked?_of_found found)
      exact Or.inr ⟨_, elapsed, causes, rfl, waits.2⟩

end Outstanding

end ReadThrough.Group
