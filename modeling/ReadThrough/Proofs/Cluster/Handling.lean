import ReadThrough.Proofs.Cluster.Coherent

/-!
# What an event does to a coherent cluster

An event lets at most one call go on, or two if one answers the fetch of the
other.  The cluster stays coherent, a call that ends was under way and gets
what is right for its key, and a call that is gone never comes back.
-/

namespace ReadThrough.Cluster

/-- What the group of a number brings about for a call can be carried out. -/
def Ready (right : String → String → Outcome → Prop) (asked : Nat → String × String)
    (members : List Member) (member call : Nat) : Group.Effect → Prop
  | .fetch other _ key => other = call ∧
      ∃ home, members[member]? = some home ∧ home.group.caller? call ≠ none ∧
        asked call = (home.group.name, key)
  | .finish other outcome => other = call ∧ right (asked call).1 (asked call).2 outcome ∧
      ∀ (number : Nat) (home : Member), members[number]? = some home →
        home.group.caller? call = none
  | .load _ _ => True
  | .wake _ => True
  | .log _ => True

/-- One call goes on in a coherent cluster. -/
structure Handled (right : String → String → Outcome → Prop) (asked : Nat → String × String)
    (cluster : Cluster) (call : Nat) (result : Cluster × List Effect) : Prop where
  coherent : Coherent right asked result.1
  issued : result.1.issued = cluster.issued
  calls : ∀ other, Ordered.get? other cluster.calls = none →
    Ordered.get? other result.1.calls = none
  finishes : ∀ other outcome, .finish other outcome ∈ result.2 →
    other = call ∧ right (asked call).1 (asked call).2 outcome

theorem present_ok {outcome : Outcome} {value : Bytes} (presented : present outcome = .ok value) :
    outcome = .ok value := by
  cases outcome with
  | ok other => exact congrArg Except.ok (Except.ok.inj presented)
  | error error => cases presented

theorem members_conclude (cluster : Cluster) (call : Nat) (outcome : Outcome) :
    (cluster.conclude call outcome).1.members = cluster.members := by
  rw [conclude]
  split <;> rfl

theorem members_absorb (member : Nat) (cluster : Cluster) (effect : Group.Effect) :
    (absorb member cluster effect).1.members = cluster.members := by
  cases effect with
  | fetch call address key =>
      rw [absorb]
      split <;> rfl
  | finish call outcome => exact members_conclude cluster call outcome
  | load | wake | log => rfl

theorem absorbAll_cons (member : Nat) (cluster : Cluster) (effect : Group.Effect)
    (effects : List Group.Effect) :
    absorbAll member cluster (effect :: effects) =
      ((absorbAll member (absorb member cluster effect).1 effects).1,
        (absorb member cluster effect).2 ++
          (absorbAll member (absorb member cluster effect).1 effects).2) := rfl

/-- Calls that are woken change nothing. -/
theorem absorbAll_wakes (member : Nat) (cluster : Cluster) (woken : List Nat) :
    absorbAll member cluster (woken.map .wake) = (cluster, woken.map .wake) := by
  induction woken with
  | nil => rfl
  | cons call woken ih =>
      rw [List.map_cons, absorbAll_cons]
      simp only [absorb, ih]
      rfl

section

variable {right : String → String → Outcome → Prop} {asked : Nat → String × String}
  {cluster : Cluster} {member call : Nat}

theorem handled_stay (coherent : Coherent right asked cluster) {effects : List Effect}
    (quiet : ∀ other outcome, .finish other outcome ∉ effects) :
    Handled right asked cluster call (cluster, effects) where
  coherent := coherent
  issued := rfl
  calls := fun _ absent => absent
  finishes := by
    intro other outcome finish
    exact absurd finish (quiet other outcome)

theorem handled_conclude (coherent : Coherent right asked cluster) {outcome : Outcome}
    (holds : right (asked call).1 (asked call).2 outcome)
    (gone : ∀ (member : Nat) (home : Member), cluster.members[member]? = some home →
      home.group.caller? call = none) :
    Handled right asked cluster call (cluster.conclude call outcome) := by
  have forgotten := coherent.forget gone
  have absent (other : Nat) (missing : Ordered.get? other cluster.calls = none) :
      Ordered.get? other (cluster.forget call).calls = none := by
    rw [get?_calls_forget, missing, ite_self]
  rw [conclude]
  split
  · rename_i home fetcher found
    obtain ⟨known, same⟩ := coherent.forwarded call home fetcher found
    refine ⟨forgotten.answer known ?_, rfl, absent, by simp [answer]⟩
    intro value presented
    rw [same, ← present_ok presented]
    exact holds
  · refine ⟨forgotten, rfl, absent, ?_⟩
    intro other result finish
    obtain ⟨rfl, rfl⟩ : other = call ∧ result = outcome := by simpa using finish
    exact ⟨rfl, holds⟩

theorem handled_absorb (coherent : Coherent right asked cluster) {effect : Group.Effect}
    (ready : Ready right asked cluster.members member call effect) :
    Handled right asked cluster call (absorb member cluster effect) := by
  cases effect with
  | fetch other address key =>
      obtain ⟨rfl, home, found, waits, same⟩ := ready
      obtain ⟨caller, held⟩ := Option.ne_none_iff_exists'.mp waits
      obtain ⟨-, fetcher, present⟩ := coherent.held member home other caller found held
      have known := (coherent.called other _ present).1
      have underWay : Ordered.get? other cluster.calls ≠ none := by simp [present]
      simp only [absorb, found]
      exact ⟨coherent.setTransit known ⟨underWay, same⟩, rfl, fun _ absent => absent, by simp⟩
  | finish other outcome =>
      obtain ⟨rfl, holds, gone⟩ := ready
      exact handled_conclude coherent holds gone
  | load | wake | log => exact handled_stay coherent (by simp)

theorem handled_absorbAll (coherent : Coherent right asked cluster) {effects : List Group.Effect}
    (ready : ∀ effect ∈ effects, Ready right asked cluster.members member call effect) :
    Handled right asked cluster call (absorbAll member cluster effects) := by
  induction effects generalizing cluster with
  | nil => exact handled_stay coherent (by simp)
  | cons effect effects ih =>
      have first := handled_absorb coherent (ready effect List.mem_cons_self)
      have others : ∀ other ∈ effects,
          Ready right asked (absorb member cluster effect).1.members member call other := by
        intro other present
        rw [members_absorb]
        exact ready other (List.mem_cons_of_mem _ present)
      have rest := ih first.coherent others
      rw [absorbAll_cons]
      refine ⟨rest.coherent, rest.issued.trans first.issued, ?_, ?_⟩
      · intro other absent
        exact rest.calls other (first.calls other absent)
      · intro other outcome finish
        rcases List.mem_append.mp finish with now | later
        · exact first.finishes other outcome now
        · exact rest.finishes other outcome later

/-- A call that its own group has forgotten is in no other one. -/
theorem gone_withGroup (coherent : Coherent right asked cluster) {home : Member}
    (found : cluster.members[member]? = some home) {fetcher : Option Nat}
    (own : Ordered.get? call cluster.calls = some ⟨member, fetcher⟩) {group : Group}
    (gone : group.caller? call = none) (number : Nat) (other : Member)
    (present : (cluster.withGroup member home group).members[number]? = some other) :
    other.group.caller? call = none := by
  rw [members_withGroup found] at present
  split at present
  · cases present
    exact gone
  · rename_i different
    cases waits : other.group.caller? call with
    | none => rfl
    | some caller =>
        obtain ⟨-, fetcher, again⟩ := coherent.held number other call caller present waits
        cases own.symm.trans again
        exact absurd rfl different

/-- What a group brings about can be carried out once the cluster has taken over the group. -/
theorem ready_withGroup {home : Member} (coherent : Coherent right asked cluster)
    (found : cluster.members[member]? = some home) {info : Option Nat}
    (own : Ordered.get? call cluster.calls = some ⟨member, info⟩)
    (name : home.group.name = (asked call).1) {group : Group}
    (kept : group.name = home.group.name) {effect : Group.Effect}
    (fits : effect.Fits (right home.group.name) group call (asked call).2) :
    Ready right asked (cluster.withGroup member home group).members member call effect := by
  cases effect with
  | fetch other address key =>
      obtain ⟨rfl, rfl, waits⟩ := fits
      refine ⟨rfl, { home with group }, ?_, waits, ?_⟩
      · rw [members_withGroup found, if_pos rfl]
      · exact Prod.ext (name.symm.trans kept.symm) rfl
  | finish other outcome =>
      obtain ⟨rfl, gone, holds⟩ := fits
      exact ⟨rfl, name ▸ holds, gone_withGroup coherent found own gone⟩
  | load | wake | log => exact True.intro

/-- The group of a call that is under way goes on soundly with it. -/
theorem Coherent.progress (coherent : Coherent right asked cluster) {home : Member}
    (found : cluster.members[member]? = some home) (event : Group.Event) {fetcher : Option Nat}
    (own : Ordered.get? event.call cluster.calls = some ⟨member, fetcher⟩)
    (admissible : event.Admissible (right home.group.name) home.group (asked event.call).2) :
    home.group.name = (asked event.call).1 ∧
      Group.Progress (right home.group.name) home.group event.call (asked event.call).2
        (home.group.step (cluster.choiceOf home) event) := by
  obtain ⟨-, other, again, name⟩ := coherent.called event.call _ own
  cases found.symm.trans again
  obtain ⟨lookupKey, sourceKey, sound⟩ := coherent.sound member home found
  have mine (caller : Group.Caller) (waits : home.group.caller? event.call = some caller) :
      caller.key = (asked event.call).2 := by
    rw [(coherent.held member home event.call caller found waits).1]
  exact ⟨name, Group.progress_step sound (cluster.choiceOf home) mine admissible⟩

theorem handled_stepMember (coherent : Coherent right asked cluster) {home : Member}
    (found : cluster.members[member]? = some home) (event : Group.Event) {fetcher : Option Nat}
    (own : Ordered.get? event.call cluster.calls = some ⟨member, fetcher⟩)
    (admissible : event.Admissible (right home.group.name) home.group (asked event.call).2) :
    Handled right asked cluster event.call (cluster.stepMember member event) := by
  obtain ⟨name, progress⟩ := coherent.progress found event own admissible
  have heldNext (call : Nat) (caller : Group.Caller)
      (waits : (home.group.step (cluster.choiceOf home) event).1.caller? call = some caller) :
      asked call = (home.group.name, caller.key) ∧
        ∃ fetcher, Ordered.get? call cluster.calls = some ⟨member, fetcher⟩ := by
    by_cases same : call = event.call
    · subst same
      exact ⟨Prod.ext name.symm (progress.own caller waits).symm, fetcher, own⟩
    · rw [progress.others call same] at waits
      exact coherent.held member home call caller found waits
  have next := coherent.withGroup found progress.name progress.sound heldNext
  have ready (effect : Group.Effect)
      (present : effect ∈ (home.group.step (cluster.choiceOf home) event).2) :=
    ready_withGroup coherent found own name progress.name (progress.effects effect present)
  have absorbed := handled_absorbAll next ready
  rw [stepMember, found]
  exact ⟨absorbed.coherent, absorbed.issued, absorbed.calls, absorbed.finishes⟩

/-- An event of a call that is not under way does nothing. -/
theorem handled_stepCall (coherent : Coherent right asked cluster) (event : Group.Event)
    (admissible : ∀ (info : Call) (home : Member),
      Ordered.get? event.call cluster.calls = some info →
      cluster.members[info.member]? = some home →
      event.Admissible (right home.group.name) home.group (asked event.call).2) :
    Handled right asked cluster event.call (cluster.stepCall event.call event) ∧
      ∀ other outcome, .finish other outcome ∈ (cluster.stepCall event.call event).2 →
        Ordered.get? other cluster.calls ≠ none := by
  rw [stepCall]
  split
  · rename_i info own
    obtain ⟨-, home, found, -⟩ := coherent.called event.call info own
    have handled := handled_stepMember coherent found event own (admissible info home own found)
    refine ⟨handled, ?_⟩
    intro other outcome finish
    rw [(handled.finishes other outcome finish).1, own]
    simp
  · exact ⟨handled_stay coherent (by simp), by simp⟩

/-- A dropped call is in no group any longer, and only calls that waited for it are told. -/
theorem stepCall_drop (coherent : Coherent right asked cluster) (call : Nat) :
    (∀ (member : Nat) (home : Member),
      (cluster.stepCall call (.drop call)).1.members[member]? = some home →
        home.group.caller? call = none) ∧
      ∀ other outcome, .finish other outcome ∉ (cluster.stepCall call (.drop call)).2 := by
  rw [stepCall]
  split
  · rename_i info own
    obtain ⟨-, home, found, -⟩ := coherent.called call info own
    obtain ⟨gone, woken, same⟩ := home.group.step_drop (cluster.choiceOf home) call
    rw [stepMember, found]
    simp only [same, absorbAll_wakes]
    exact ⟨gone_withGroup coherent found own gone, by simp⟩
  · rename_i absent
    refine ⟨?_, by simp⟩
    intro member home found
    cases waits : home.group.caller? call with
    | none => rfl
    | some caller =>
        obtain ⟨-, fetcher, present⟩ := coherent.held member home call caller found waits
        cases absent.symm.trans present

/-- A call that is abandoned is gone, and no call ends with it. -/
theorem handled_abandon (coherent : Coherent right asked cluster) (call : Nat)
    (holds : Ordered.get? call cluster.calls ≠ none →
      ∀ name key, right name key (.error .cancelled)) :
    Handled right asked cluster call (cluster.abandon call) ∧
      Ordered.get? call (cluster.abandon call).1.calls = none ∧
      ∀ other outcome, .finish other outcome ∉ (cluster.abandon call).2 := by
  have dropped : Handled right asked cluster call (cluster.stepCall call (.drop call)) := by
    refine (handled_stepCall coherent (.drop call) fun info home own found => ?_).1
    exact holds (fun absent => Option.some_ne_none info (own.symm.trans absent)) _ _
  obtain ⟨gone, quiet⟩ := stepCall_drop coherent call
  refine ⟨⟨dropped.coherent.forget gone, dropped.issued, ?_, ?_⟩, ?_, quiet⟩
  · intro other absent
    rw [abandon, get?_calls_forget, dropped.calls other absent, ite_self]
  · intro other outcome finish
    exact absurd finish (quiet other outcome)
  · rw [abandon, get?_calls_forget, if_pos rfl]

end

end ReadThrough.Cluster
