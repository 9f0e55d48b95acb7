import ReadThrough.Proofs.Cluster.Moves

/-!
# Reading through a cluster

If every data source of a group gives the same values and errors, then so does
the group, from whatever node it is read.  It does not matter who the members
are, which of them can be reached, how much the caches keep and in which order
the calls go on: only a call that shares the computation of a dropped call may
notice, and it is told so.
-/

namespace ReadThrough.Cluster

/-- What a call for a group may end with, if calls may have been cancelled or not. -/
def Given (data : String → Except Causes Bytes) (name : String) (cancelled : Prop)
    (group key : String) (outcome : Outcome) : Prop :=
  group = name → key ≠ "" →
    outcome = Group.outcomeOf (data key) ∨ cancelled ∧ outcome = .error .cancelled

def Gone (calls : Nat → Prop) (cluster : Cluster) : Prop :=
  ∃ call, calls call ∧ call < cluster.issued ∧ Ordered.get? call cluster.calls = none

section

variable {data : String → Except Causes Bytes} {name : String} {asked later : Nat → String × String}
  {cluster : Cluster} {right : String → String → Outcome → Prop}

theorem Given.mono {cancelled other : Prop} (weaker : cancelled → other) (group key : String)
    (outcome : Outcome) (given : Given data name cancelled group key outcome) :
    Given data name other group key outcome := by
  intro same nonempty
  exact (given same nonempty).imp_right fun ⟨happened, told⟩ => ⟨weaker happened, told⟩

theorem Gone.mono {calls others : Nat → Prop} (gone : Gone calls cluster)
    (weaker : ∀ call, calls call → others call) : Gone others cluster := by
  obtain ⟨call, among, rest⟩ := gone
  exact ⟨call, weaker call among, rest⟩

/-- A call that is gone never comes back. -/
theorem Advance.gone {result : Cluster × List Effect}
    (advance : Advance right asked later cluster result) {calls : Nat → Prop}
    (gone : Gone calls cluster) : Gone calls result.1 := by
  obtain ⟨call, among, known, absent⟩ := gone
  exact ⟨call, among, Nat.lt_of_lt_of_le known advance.issued, advance.calls call known absent⟩

/-- If no data source lies, an event brings only what may be given. -/
theorem Truthful.admissible {event : Event} {cancelled : Prop}
    (truthful : cluster.Truthful data name (.event event))
    (dropped : ∀ call, cluster.Drops (.event event) call → cancelled) :
    event.Admissible (Given data name cancelled) cluster := by
  cases event with
  | loaded call result =>
      intro group key loads same nonempty
      have said : ⟨group, key, result⟩ ∈ cluster.testimony? (.event (.loaded call result)) := by
        simp [testimony?, loads]
      exact Or.inl (congrArg Group.outcomeOf (truthful _ said same))
  | respond call result =>
      cases result with
      | ok value =>
          intro address group key fetch same nonempty
          have said : ⟨group, key, .ok value⟩ ∈
              cluster.testimony? (.event (.respond call (.ok value))) := by
            simp [testimony?, fetch]
          exact Or.inl (congrArg Group.outcomeOf (truthful _ said same))
      | error causes => exact True.intro
  | drop call =>
      intro underWay group key same nonempty
      exact Or.inr ⟨dropped call ⟨rfl, underWay⟩, rfl⟩
  | get | getForPeer | arrive | receive | resume => exact True.intro

theorem given_refused (cancelled : Prop) (group : String) :
    Given data name cancelled group "" (.error .invalidKey) :=
  fun _ nonempty => absurd rfl nonempty

/-- The cluster goes on, after which more calls may have been dropped. -/
structure Proceeds (data : String → Except Causes Bytes) (name : String)
    (calls more : Nat → Prop) (asked later : Nat → String × String) (cluster : Cluster)
    (result : Cluster × List Effect) : Prop where
  agree : ∀ call, call < cluster.issued → later call = asked call
  coherent : Coherent (Given data name (Gone more result.1)) later result.1
  issued : cluster.issued ≤ result.1.issued
  finishes : ∀ call outcome, call < cluster.issued → .finish call outcome ∈ result.2 →
    Ordered.get? call cluster.calls ≠ none ∧
      Given data name (Gone calls cluster) (asked call).1 (asked call).2 outcome
  made : ∀ call outcome, .finish call outcome ∈ result.2 → call < result.1.issued

/-- A move keeps the cluster coherent, and a call that ends in it is given what it may be. -/
theorem make_given {calls : Nat → Prop} {move : Move}
    (coherent : Coherent (Given data name (Gone calls cluster)) asked cluster)
    (truthful : cluster.Truthful data name move) :
    ∃ later, Proceeds data name calls (fun call => calls call ∨ cluster.Drops move call) asked
      later cluster (cluster.make move) := by
  by_cases dropping : ∃ call, cluster.Drops move call
  · obtain ⟨dropped, rfl, underWay⟩ := dropping
    obtain ⟨info, own⟩ := Option.ne_none_iff_exists'.mp underWay
    have known := (coherent.called dropped info own).1
    -- The calls that wait for the dropped one are told before it is gone.
    have permissive := coherent.mono (Given.mono fun _ => True.intro)
    obtain ⟨advance, gone, quiet⟩ :=
      advance_drop permissive fun _ group key _ _ => Or.inr ⟨True.intro, rfl⟩
    have happened : Gone (fun call => calls call ∨ cluster.Drops (.event (.drop dropped)) call)
        (cluster.make (.event (.drop dropped))).1 :=
      ⟨dropped, Or.inr ⟨rfl, underWay⟩, Nat.lt_of_lt_of_le known advance.issued, gone⟩
    refine ⟨asked, fun _ _ => rfl, advance.coherent.mono (Given.mono fun _ => happened),
      advance.issued, ?_, advance.made⟩
    intro call outcome _ finish
    exact absurd finish (quiet call outcome)
  · have admissible (event : Event) (same : move = .event event) :
        event.Admissible (Given data name (Gone calls cluster)) cluster := by
      subst same
      exact truthful.admissible fun call drops => absurd ⟨call, drops⟩ dropping
    obtain ⟨later, advance⟩ := advance_make coherent admissible (given_refused _)
    refine ⟨later, advance.agree, advance.coherent.mono (Given.mono ?_), advance.issued,
      advance.finishes, advance.made⟩
    intro gone
    exact (advance.gone gone).mono fun _ => Or.inl

/-- What a call is given is what the data are, or the call is told that another one is gone. -/
def Explained (data : String → Except Causes Bytes) (calls : Nat → Prop) (call : Nat)
    (key : String) (outcome : Outcome) : Prop :=
  outcome = Group.outcomeOf (data key) ∨
    outcome = .error .cancelled ∧ ∃ other, other ≠ call ∧ calls other

theorem Explained.mono {calls others : Nat → Prop} {call : Nat} {key : String} {outcome : Outcome}
    (explained : Explained data calls call key outcome)
    (weaker : ∀ call, calls call → others call) : Explained data others call key outcome := by
  rcases explained with right | ⟨told, other, different, among⟩
  · exact Or.inl right
  · exact Or.inr ⟨told, other, different, weaker other among⟩

theorem explained_of_given {calls : Nat → Prop} {call : Nat} {key : String} {outcome : Outcome}
    (given : Given data name (Gone calls cluster) name key outcome) (nonempty : key ≠ "")
    (alive : ∀ other, other < cluster.issued → Ordered.get? other cluster.calls = none →
      other ≠ call) : Explained data calls call key outcome := by
  rcases given rfl nonempty with right | ⟨⟨other, among, known, absent⟩, told⟩
  · exact Or.inl right
  · exact Or.inr ⟨told, other, alive other known absent, among⟩

/-- The same over a sequence of moves. -/
theorem play_given {calls : Nat → Prop} {moves : List Move}
    (coherent : Coherent (Given data name (Gone calls cluster)) asked cluster)
    (truthful : cluster.TruthfulThroughout data name moves) :
    (∃ later, Coherent (Given data name
      (Gone (fun call => calls call ∨ cluster.Dropped moves call) (cluster.play moves).1)) later
      (cluster.play moves).1) ∧
      (∀ call outcome, call < cluster.issued → .finish call outcome ∈ (cluster.play moves).2 →
        (asked call).1 = name → (asked call).2 ≠ "" →
          Explained data (fun other => calls other ∨ cluster.Dropped moves other) call
            (asked call).2 outcome) ∧
      cluster.issued ≤ (cluster.play moves).1.issued ∧
      ∀ call outcome, .finish call outcome ∈ (cluster.play moves).2 →
        call < (cluster.play moves).1.issued := by
  -- The dropped calls are gone and a call that ends is not, so it is none of them.
  induction moves generalizing cluster asked calls with
  | nil =>
      refine ⟨⟨asked, coherent.mono (Given.mono fun gone => gone.mono fun _ => Or.inl)⟩, ?_,
        Nat.le_refl _, ?_⟩
      · intro call outcome _ finish
        cases finish
      · intro call outcome finish
        cases finish
  | cons move moves ih =>
      obtain ⟨first, others⟩ := truthful
      obtain ⟨later, proceeds⟩ := make_given coherent first
      obtain ⟨final, explained, issued, made⟩ := ih proceeds.coherent others
      simp only [or_assoc] at final explained
      refine ⟨final, ?_, Nat.le_trans proceeds.issued issued, ?_⟩
      · intro call outcome known finish same nonempty
        rcases List.mem_append.mp finish with now | afterwards
        · obtain ⟨alive, given⟩ := proceeds.finishes call outcome known now
          rw [same] at given
          refine (explained_of_given given nonempty ?_).mono fun _ => Or.inl
          rintro other - absent rfl
          exact alive absent
        · have again := explained call outcome (Nat.lt_of_lt_of_le known proceeds.issued)
            afterwards
          rw [proceeds.agree call known] at again
          exact again same nonempty
      · intro call outcome finish
        rcases List.mem_append.mp finish with now | afterwards
        · exact Nat.lt_of_lt_of_le (proceeds.made call outcome now) issued
        · exact made call outcome afterwards

/-- A call for a key of a group that its node has is given what the data are, from start to end. -/
theorem request_given {calls : Nat → Prop} {node : Nat} {key : String}
    (coherent : Coherent (Given data name (Gone calls cluster)) asked cluster)
    (hosted : cluster.find? node name ≠ none) {event : Nat → Group.Event}
    (asks : event cluster.issued = .get cluster.issued key ∨
      event cluster.issued = .getForPeer cluster.issued key)
    (nonempty : key ≠ "") :
    ∃ later, later cluster.issued = (name, key) ∧
      cluster.issued < (cluster.request node name event).1.issued ∧
      Coherent (Given data name (Gone calls (cluster.request node name event).1)) later
        (cluster.request node name event).1 ∧
      ∀ outcome, .finish cluster.issued outcome ∈ (cluster.request node name event).2 →
        Explained data calls cluster.issued key outcome := by
  obtain ⟨member, present⟩ := Option.ne_none_iff_exists'.mp hosted
  obtain ⟨home, found, rfl⟩ := coherent.registered node name member present
  have handled := handled_begin coherent found none (by simp) event asks (given_refused _)
  have advance := handled.advance_opened
  simp only [request, present]
  refine ⟨_, assign_self asked cluster home.group.name key, ?_,
    advance.coherent.mono (Given.mono advance.gone), ?_⟩
  · rw [handled.issued]
    exact Nat.lt_succ_self _
  · intro outcome finish
    have given := (handled.finishes cluster.issued outcome finish).2
    rw [assign_self] at given
    refine explained_of_given given nonempty ?_
    rintro other known - rfl
    exact Nat.lt_irrefl _ known

/--
However a cluster came about and whatever happens to it: a call for a key of a
group at a node that has the group ends with what the data of the group are.
Only if another call was dropped may it be told instead that the computation
that it shared is cancelled.
-/
theorem request_transparent (data : String → Except Causes Bytes) (name : String)
    (pickers : List Peer.Picker) (before after : List Move) (request : Event) (node : Nat)
    (key : String) (asks : request = .get node name key ∨ request = .getForPeer node name key)
    (nonempty : key ≠ "") (hosted : ((ofNodes pickers).play before).1.find? node name ≠ none)
    (truthful : (ofNodes pickers).TruthfulThroughout data name
      (before ++ .event request :: after)) :
    let start := ofNodes pickers
    let call := (start.play before).1.issued
    let moves := before ++ .event request :: after
    ∀ outcome, .finish call outcome ∈ (start.play moves).2 →
      (outcome = Group.outcomeOf (data key) ∨
        outcome = .error .cancelled ∧ ∃ other, other ≠ call ∧ start.Dropped moves other) ∧
      ((∀ other, ¬ start.Dropped moves other) → outcome = Group.outcomeOf (data key)) := by
  intro start call moves outcome finish
  obtain ⟨truthfulBefore, -, truthfulAfter⟩ := truthful.split
  have coherentStart : Coherent (Given data name (Gone (fun _ => False) start))
      (fun _ => ("", "")) start := coherent_ofNodes pickers
  obtain ⟨⟨asked, coherent⟩, -, -, made⟩ := play_given coherentStart truthfulBefore
  have begun : ∃ later, later call = (name, key) ∧
      call < ((start.play before).1.step request).1.issued ∧
      Coherent (Given data name (Gone (fun call => False ∨ start.Dropped before call)
        ((start.play before).1.step request).1)) later ((start.play before).1.step request).1 ∧
      ∀ outcome, .finish call outcome ∈ ((start.play before).1.step request).2 →
        Explained data (fun call => False ∨ start.Dropped before call) call key outcome := by
    rcases asks with rfl | rfl
    · exact request_given coherent hosted (Or.inl rfl) nonempty
    · exact request_given coherent hosted (Or.inr rfl) nonempty
  obtain ⟨later, same, known, next, ended⟩ := begun
  obtain ⟨-, goesOn, -⟩ := play_given next truthfulAfter
  have explained : Explained data (start.Dropped moves) call key outcome := by
    rw [play_append] at finish
    rcases List.mem_append.mp finish with early | rest
    · exact absurd (made call outcome early) (Nat.lt_irrefl _)
    · rcases List.mem_append.mp rest with now | afterwards
      · refine (ended outcome now).mono ?_
        rintro other (⟨⟨⟩⟩ | dropped)
        exact dropped_append.mpr (Or.inl dropped)
      · have explained := goesOn call outcome known afterwards
        rw [same] at explained
        refine (explained rfl nonempty).mono ?_
        rintro other ((⟨⟨⟩⟩ | dropped) | dropped)
        · exact dropped_append.mpr (Or.inl dropped)
        · exact dropped_append.mpr (Or.inr (Or.inr dropped))
  refine ⟨explained, ?_⟩
  intro undisturbed
  rcases explained with right | ⟨-, other, -, among⟩
  · exact right
  · exact absurd among (undisturbed other)

/-- The node that was asked computes the value, but its answer is lost. -/
theorem request_transparent_lost_answer :
    let data (key : String) : Except Causes Bytes :=
      if key = "k" then .ok [7] else .error ["unknown"]
    let pickers : List Peer.Picker := [.fixed ⟨[], some "b", ["b"]⟩,
      .pool (.standard { Peer.Settings.standard with self := "b" })]
    let before : List Move := [.register 0 "g" 0, .attach 0, .register 1 "g" 1]
    let request : Event := .get 0 "g" "k"
    let after : List Move := [.event (.arrive 0), .event (.get 0 "g" "k"),
      .event (.loaded 1 (.ok [7])), .breakOff 0 ["connection reset"],
      .event (.receive 0 ⟨0⟩), .event (.loaded 0 (.ok [7])), .event (.resume 2)]
    let start := ofNodes pickers
    let moves := before ++ .event request :: after
    (start.play before).1.find? 0 "g" ≠ none ∧ start.TruthfulThroughout data "g" moves ∧
      .finish 0 (.ok [7]) ∈ (start.play moves).2 ∧
      ∀ outcome, .finish 0 outcome ∈ (start.play moves).2 → outcome = .ok [7] := by
  intro data pickers before request after start moves
  have hosted : (start.play before).1.find? 0 "g" ≠ none := by decide
  have truthful : start.TruthfulThroughout data "g" moves := by decide
  have undisturbed (other : Nat) : ¬ start.Dropped moves other := by
    simp [Dropped, Drops, moves, before, request, after]
  refine ⟨hosted, truthful, by decide, ?_⟩
  intro outcome finish
  exact (request_transparent data "g" pickers before after request 0 "k" (Or.inl rfl) (by decide)
    hosted truthful outcome finish).2 undisturbed

/-- A call that shares the computation of a dropped one is told so. -/
example : .finish 1 (.error .cancelled) ∈ ((ofNodes [.fixed default]).play
    [.register 0 "g" 0, .event (.get 0 "g" "k"), .event (.get 0 "g" "k"), .event (.drop 0),
      .event (.resume 1)]).2 := by
  decide

end

end ReadThrough.Cluster
