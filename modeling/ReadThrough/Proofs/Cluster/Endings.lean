import ReadThrough.Proofs.Cluster.Hops
import ReadThrough.Proofs.Cluster.Liveness

/-!
# The end of a call

A call that is made from outside stays until it ends or is dropped.  It ends at
most once, and never after it is gone.
-/

namespace ReadThrough.Cluster

def Effect.outcomeOf? (call : Nat) : Effect → Option Outcome
  | .finish other outcome => if other = call then some outcome else none
  | .fetch .. | .load .. | .reply _ | .wake _ | .log _ => none

def outcomesOf (call : Nat) (effects : List Effect) : List Outcome :=
  effects.filterMap (Effect.outcomeOf? call)

theorem outcomesOf_append (call : Nat) (first second : List Effect) :
    outcomesOf call (first ++ second) = outcomesOf call first ++ outcomesOf call second :=
  List.filterMap_append

theorem mem_outcomesOf {call : Nat} {effects : List Effect} {outcome : Outcome} :
    outcome ∈ outcomesOf call effects ↔ .finish call outcome ∈ effects := by
  rw [outcomesOf, List.mem_filterMap]
  constructor
  · rintro ⟨effect, present, same⟩
    cases effect with
    | finish other result =>
        obtain ⟨rfl, rfl⟩ : other = call ∧ result = outcome := by
          simpa [Effect.outcomeOf?] using same
        exact present
    | fetch | load | reply | wake | log => cases same
  · intro present
    exact ⟨_, present, if_pos rfl⟩

theorem outcomesOf_eq_nil {call : Nat} {effects : List Effect}
    (quiet : ∀ outcome, .finish call outcome ∉ effects) : outcomesOf call effects = [] :=
  List.eq_nil_iff_forall_not_mem.mpr fun outcome present =>
    quiet outcome (mem_outcomesOf.mp present)

/--
A call ends at most once, and is gone then; the call of a client stays as it is
until it ends, unless it is dropped.
-/
structure Settles (dropped : Nat → Prop) (cluster : Cluster) (result : Cluster × List Effect) :
    Prop where
  once : ∀ call, outcomesOf call result.2 = [] ∨
    (∃ outcome, outcomesOf call result.2 = [outcome]) ∧ Ordered.get? call result.1.calls = none
  kept : ∀ call member, Ordered.get? call cluster.calls = some ⟨member, none⟩ →
    Ordered.get? call result.1.calls = some ⟨member, none⟩ ∨ outcomesOf call result.2 ≠ [] ∨
      dropped call

section

variable {dropped : Nat → Prop} {cluster : Cluster}

theorem Settles.quiet {result : Cluster × List Effect} (calls : result.1.calls = cluster.calls)
    (silent : ∀ call outcome, .finish call outcome ∉ result.2) :
    Settles dropped cluster result where
  once := fun call => Or.inl (outcomesOf_eq_nil (silent call))
  kept := fun _ _ own => Or.inl (calls ▸ own)

theorem settles_reported {changed : Cluster × List Log}
    (calls : changed.1.calls = cluster.calls) : Settles dropped cluster (reported changed) :=
  .quiet calls (by simp [reported])

theorem settles_answer (cluster : Cluster) (call : Nat) (result : Except Causes Bytes) :
    Settles dropped cluster (cluster.answer call result) :=
  .quiet rfl (by simp [answer])

/-- Only the calls of the cluster at the start matter. -/
theorem Settles.of_calls {other : Cluster} {result : Cluster × List Effect}
    (settles : Settles dropped other result)
    (calls : ∀ call member, Ordered.get? call cluster.calls = some ⟨member, none⟩ →
      Ordered.get? call other.calls = some ⟨member, none⟩) : Settles dropped cluster result where
  once := settles.once
  kept := fun call member own => settles.kept call member (calls call member own)

/-- A call that has ended is forgotten, and its client is told. -/
theorem settles_conclude (cluster : Cluster) (call : Nat) (outcome : Outcome) :
    Settles dropped cluster (cluster.conclude call outcome) := by
  rw [conclude]
  split
  · rename_i number fetcher own
    refine ⟨fun other => Or.inl (outcomesOf_eq_nil (by simp [answer])), fun other member mine => ?_⟩
    refine Or.inl ((get?_calls_forget cluster call other).trans ?_)
    rw [if_neg, mine]
    rintro rfl
    cases own.symm.trans mine
  · refine ⟨fun other => ?_, fun other member mine => ?_⟩
    · by_cases same : call = other
      · subst same
        exact Or.inr ⟨⟨outcome, by simp [outcomesOf, Effect.outcomeOf?]⟩,
          (get?_calls_forget cluster call call).trans (if_pos rfl)⟩
      · exact Or.inl (by simp [outcomesOf, Effect.outcomeOf?, same])
    · by_cases same : other = call
      · subst same
        exact Or.inr (Or.inl (by simp [outcomesOf, Effect.outcomeOf?]))
      · exact Or.inl ((get?_calls_forget cluster call other).trans ((if_neg same).trans mine))

/-- Only the effects that reach beyond the group end calls. -/
theorem outcomesOf_absorbAll (call member : Nat) (cluster : Cluster)
    (effects : List Group.Effect) :
    outcomesOf call (absorbAll member cluster effects).2 =
      outcomesOf call (absorbAll member cluster (Group.outwardOf effects)).2 := by
  induction effects generalizing cluster with
  | nil => rfl
  | cons effect effects ih =>
      cases effect with
      | fetch | finish =>
          refine (outcomesOf_append call _ _).trans ((congrArg _ (ih _)).trans ?_)
          exact (outcomesOf_append call _ _).symm
      | load | wake | log => exact ih cluster

theorem settles_stepMember (cluster : Cluster) (member : Nat) (event : Group.Event) :
    Settles dropped cluster (cluster.stepMember member event) := by
  cases found : cluster.members[member]? with
  | none =>
      rw [stepMember, found]
      exact .quiet rfl (by simp)
  | some home =>
      have upshot := (Group.transition (cluster.choiceOf home) home.group event).upshot
      have outcomes (call : Nat) :=
        (congrArg (fun result => outcomesOf call result.2) (stepMember_eq found event)).trans
          (outcomesOf_absorbAll call member _ _)
      have state := (congrArg Prod.fst (stepMember_eq found event)).trans
        (absorbAll_outward member _ _)
      generalize (home.group.step (cluster.choiceOf home) event).1 = next
        at upshot outcomes state
      generalize Group.outwardOf (home.group.step (cluster.choiceOf home) event).2 = outward
        at upshot outcomes state
      have settles : Settles dropped cluster
          (absorbAll member (cluster.withGroup member home next) outward) := by
        cases upshot with
        | nothing => exact .quiet rfl (by simp [absorbAll])
        | fetch =>
            rw [absorbAll_cons, absorb]
            split <;> exact .quiet rfl (by simp [absorbAll])
        | @finish outcome =>
            have concluded : Settles dropped cluster
                ((cluster.withGroup member home next).conclude event.call outcome) :=
              (settles_conclude _ _ _).of_calls fun _ _ => id
            rw [absorbAll_cons]
            simpa [absorbAll, absorb] using concluded
      refine ⟨fun call => ?_, fun call number own => ?_⟩
      · rw [outcomes call, state]
        exact settles.once call
      · rw [outcomes call, state]
        exact settles.kept call number own

theorem settles_stepCall (cluster : Cluster) (call : Nat) (event : Group.Event) :
    Settles dropped cluster (cluster.stepCall call event) := by
  rw [stepCall]
  split
  · exact settles_stepMember cluster _ event
  · exact .quiet rfl (by simp)

theorem settles_opened (cluster : Cluster) (member : Nat) (fetcher : Option Nat)
    (event : Nat → Group.Event) :
    Settles dropped (cluster.opened member fetcher) (cluster.begin member fetcher event) :=
  settles_stepMember _ member (event cluster.issued)

end

section

variable {dropped : Nat → Prop} {cluster : Cluster} {right : String → String → Outcome → Prop}
  {asked : Nat → String × String} (coherent : Coherent right asked cluster)

include coherent

theorem settles_begin (member : Nat) (fetcher : Option Nat) (event : Nat → Group.Event) :
    Settles dropped cluster (cluster.begin member fetcher event) := by
  refine (settles_opened cluster member fetcher event).of_calls fun call number own => ?_
  rw [get?_calls_opened, if_neg]
  · exact own
  · rintro rfl
    exact absurd (coherent.called _ _ own).1 (Nat.lt_irrefl _)

theorem settles_request (node : Nat) (name : String) (event : Nat → Group.Event) :
    Settles dropped cluster (cluster.request node name event) ∧
      ((∃ member, Ordered.get? cluster.issued (cluster.request node name event).1.calls =
        some ⟨member, none⟩) ∨ outcomesOf cluster.issued (cluster.request node name event).2 ≠ []) := by
  rw [request]
  split
  · rename_i member present
    refine ⟨settles_begin coherent member none event, ?_⟩
    have opened : Settles (fun _ => False) (cluster.opened member none)
        (cluster.begin member none event) := settles_opened cluster member none event
    have own : Ordered.get? cluster.issued (cluster.opened member none).calls =
        some ⟨member, none⟩ := (get?_calls_opened ..).trans (if_pos rfl)
    rcases opened.kept cluster.issued member own with waits | ended | ⟨⟨⟩⟩
    · exact Or.inl ⟨member, waits⟩
    · exact Or.inr ended
  · have absent : Ordered.get? cluster.issued cluster.calls = none := by
      by_contra known
      obtain ⟨info, own⟩ := Option.ne_none_iff_exists'.mp known
      exact absurd (coherent.called _ _ own).1 (Nat.lt_irrefl _)
    refine ⟨⟨fun call => ?_, fun call member own => Or.inl own⟩,
      Or.inr (by simp [outcomesOf, Effect.outcomeOf?])⟩
    by_cases same : cluster.issued = call
    · subst same
      exact Or.inr ⟨⟨.error (.unknownGroup name), by simp [outcomesOf, Effect.outcomeOf?]⟩, absent⟩
    · exact Or.inl (by simp [outcomesOf, Effect.outcomeOf?, same])

theorem settles_deliver (fetcher node : Nat) (name key : String) :
    Settles dropped cluster (cluster.deliver fetcher node name key) := by
  rw [deliver]
  split
  · exact settles_answer cluster fetcher _
  · rename_i member _
    refine Settles.of_calls (settles_opened (cluster.setTransit fetcher (.serving cluster.issued))
      member (some fetcher) fun call => .getForPeer call key) fun call number own => ?_
    rw [get?_calls_opened, if_neg]
    · exact own
    · rintro rfl
      exact absurd (coherent.called _ _ own).1 (Nat.lt_irrefl _)

theorem settles_abandon (call : Nat) (given : dropped call) :
    Settles dropped cluster (cluster.abandon call) := by
  obtain ⟨-, silent⟩ := stepCall_drop coherent call
  have stepped : Settles dropped cluster (cluster.stepCall call (.drop call)) :=
    settles_stepCall cluster call _
  refine ⟨fun other => Or.inl (outcomesOf_eq_nil (silent other)), fun other member own => ?_⟩
  by_cases same : other = call
  · exact Or.inr (Or.inr (same ▸ given))
  · rcases stepped.kept other member own with waits | ended
    · exact Or.inl ((get?_calls_forget _ call other).trans ((if_neg same).trans waits))
    · exact Or.inr ended

end

section

variable {cluster : Cluster} {asked : Nat → String × String}
  (attended : cluster.Attended none) (coherent : Coherent (fun _ _ _ => True) asked cluster)

include attended coherent

theorem settles_step (event : Event) :
    Settles (fun call => event = .drop call) cluster (cluster.step event) := by
  cases event with
  | get node name key => exact (settles_request coherent node name _).1
  | getForPeer node name key => exact (settles_request coherent node name _).1
  | arrive call =>
      rw [step]
      split
      · rename_i address name key _
        rcases serve_cases cluster call address name key with ⟨causes, same⟩ | ⟨node, -, same⟩
        · rw [same]
          exact settles_answer cluster call _
        · rw [same]
          exact settles_deliver coherent call node name key
      · exact .quiet rfl (by simp)
  | respond call result =>
      rw [step]
      split
      · exact settles_answer cluster call result
      · exact .quiet rfl (by simp)
  | receive call elapsed =>
      rw [step]
      split
      · exact (settles_stepCall _ call _).of_calls fun _ _ => id
      · exact .quiet rfl (by simp)
  | loaded call result => exact settles_stepCall cluster call _
  | resume call => exact settles_stepCall cluster call _
  | drop call =>
      rw [step]
      split
      · rename_i answering fetch
        -- The call that answers the fetch is none of a client.
        obtain ⟨-, answers⟩ := attended.serving call answering fetch
        have first : Settles (fun other => other = answering) cluster
            (cluster.abandon answering) := settles_abandon coherent answering rfl
        have remaining := (handled_abandon coherent answering fun _ _ _ => True.intro).1.coherent
        have second : Settles (fun other => Event.drop call = .drop other)
            (cluster.abandon answering).1 ((cluster.abandon answering).1.abandon call) :=
          settles_abandon remaining call rfl
        obtain ⟨-, -, firstSilent⟩ := handled_abandon coherent answering fun _ _ _ => True.intro
        have silent (other : Nat) : outcomesOf other (cluster.abandon answering).2 = [] :=
          outcomesOf_eq_nil (firstSilent other)
        refine ⟨fun other => ?_, fun other member own => ?_⟩
        · simp only [outcomesOf_append, silent, List.nil_append]
          exact second.once other
        · simp only [outcomesOf_append, silent, List.nil_append]
          rcases first.kept other member own with waits | ended | rfl
          · exact second.kept other member waits
          · exact absurd (silent other) ended
          · cases answers _ own
      · exact settles_abandon coherent call rfl

theorem settles_make (move : Move) :
    Settles (fun call => move = .event (.drop call)) cluster (cluster.make move) := by
  cases move with
  | event event =>
      obtain ⟨once, kept⟩ := settles_step attended coherent event
      refine ⟨once, fun call member own => ?_⟩
      exact (kept call member own).imp_right (Or.imp_right (congrArg Move.event))
  | breakOff call causes =>
      rw [make, breakOff]
      split
      · exact settles_answer cluster call _
      · exact .quiet rfl (by simp)
  | applySettings node settings members =>
      exact settles_reported (kept_applySettings cluster node settings members).2
  | setMembers node members => exact settles_reported (kept_setMembers cluster node members).2
  | goDown | goUp => exact .quiet rfl (by simp [make])
  | register node name budget =>
      exact settles_reported (kept_register cluster node (.empty name budget)).2
  | attach member =>
      rw [make]
      split
      · rename_i next attached
        exact .quiet (kept_attach attached).2 (by simp)
      · exact .quiet rfl (by simp)

theorem settles_undergo (occurrence : Occurrence) :
    Settles (fun call => occurrence = .move (.event (.drop call))) cluster
      (cluster.undergo occurrence) := by
  cases occurrence with
  | move move =>
      obtain ⟨once, kept⟩ := settles_make attended coherent move
      refine ⟨once, fun call member own => ?_⟩
      exact (kept call member own).imp_right (Or.imp_right (congrArg Occurrence.move))
  | reach call node =>
      rw [undergo, reach]
      split
      · exact settles_deliver coherent call node _ _
      · exact .quiet rfl (by simp)

end

/-! ## Runs -/

/-- What becomes of a call in a run. -/
structure Settled (call : Nat) (history : List Occurrence) (cluster : Cluster)
    (result : Cluster × List Effect) : Prop where
  once : (outcomesOf call result.2).length ≤ 1
  /-- A call that is gone neither ends nor comes back. -/
  gone : Ordered.get? call cluster.calls = none →
    outcomesOf call result.2 = [] ∧ Ordered.get? call result.1.calls = none
  waits : ∀ member, Ordered.get? call cluster.calls = some ⟨member, none⟩ →
    outcomesOf call result.2 = [] → Ordered.get? call result.1.calls ≠ none ∨
      .move (.event (.drop call)) ∈ history

variable {cluster : Cluster} {asked : Nat → String × String} {call : Nat}

theorem settled_undergoAll (attended : cluster.Attended none)
    (coherent : Coherent (fun _ _ _ => True) asked cluster) (known : call < cluster.issued)
    (history : List Occurrence) :
    Settled call history cluster (cluster.undergoAll history) := by
  induction history generalizing cluster asked with
  | nil =>
      refine ⟨Nat.zero_le _, fun absent => ⟨rfl, absent⟩, fun member own _ => Or.inl ?_⟩
      rw [undergoAll, own]
      exact Option.some_ne_none _
  | cons occurrence history ih =>
      obtain ⟨later, advance⟩ := advance_undergo coherent occurrence
      obtain ⟨once, kept⟩ := settles_undergo attended coherent occurrence
      have rest := ih (attended.undergo coherent occurrence) advance.coherent
        (Nat.lt_of_lt_of_le known advance.issued)
      have split : outcomesOf call (cluster.undergoAll (occurrence :: history)).2 =
          outcomesOf call (cluster.undergo occurrence).2 ++
            outcomesOf call ((cluster.undergo occurrence).1.undergoAll history).2 :=
        outcomesOf_append call _ _
      refine ⟨?_, fun absent => ?_, fun member own none => ?_⟩
      · rw [split]
        rcases once call with silent | ⟨⟨outcome, ended⟩, gone⟩
        · rw [silent]
          exact rest.once
        · rw [ended, (rest.gone gone).1]
          exact Nat.le_refl 1
      · have silent : outcomesOf call (cluster.undergo occurrence).2 = [] :=
          outcomesOf_eq_nil fun outcome finish =>
            (advance.finishes call outcome known finish).1 absent
        rw [split, silent]
        exact rest.gone (advance.calls call known absent)
      · rw [split, List.append_eq_nil_iff] at none
        rcases kept call member own with still | ended | rfl
        · exact (rest.waits member still none.2).imp_right (List.mem_cons_of_mem _)
        · exact absurd none.1 ended
        · exact Or.inr List.mem_cons_self

/-- What becomes of a call from the request by which it is made. -/
theorem settled_request (attended : cluster.Attended none)
    (coherent : Coherent (fun _ _ _ => True) asked cluster) {occurrence : Occurrence} {node : Nat}
    {name : String} {event : Nat → Group.Event}
    (makes : cluster.undergo occurrence = cluster.request node name event)
    (issued : cluster.issued < (cluster.undergo occurrence).1.issued)
    (history : List Occurrence) :
    let result := cluster.undergoAll (occurrence :: history)
    (outcomesOf cluster.issued result.2).length ≤ 1 ∧
      (outcomesOf cluster.issued result.2 = [] →
        Ordered.get? cluster.issued result.1.calls ≠ none ∨
          .move (.event (.drop cluster.issued)) ∈ history) := by
  intro result
  obtain ⟨later, advance⟩ := advance_undergo coherent occurrence
  have rest := settled_undergoAll (attended.undergo coherent occurrence) advance.coherent issued
    history
  obtain ⟨settles, new⟩ : Settles (fun _ => False) cluster (cluster.request node name event) ∧ _ :=
    settles_request coherent node name event
  rw [← makes] at settles new
  have split : outcomesOf cluster.issued result.2 =
      outcomesOf cluster.issued (cluster.undergo occurrence).2 ++
        outcomesOf cluster.issued ((cluster.undergo occurrence).1.undergoAll history).2 :=
    outcomesOf_append cluster.issued _ _
  rw [split]
  rcases settles.once cluster.issued with silent | ⟨⟨outcome, ended⟩, gone⟩
  · rw [silent]
    refine ⟨rest.once, fun none => ?_⟩
    rcases new with ⟨member, own⟩ | ended
    · exact rest.waits member own none
    · exact absurd silent ended
  · rw [ended, (rest.gone gone).1]
    exact ⟨Nat.le_refl 1, nofun⟩

theorem issued_le_undergoAll (cluster : Cluster) (history : List Occurrence) :
    cluster.issued ≤ (cluster.undergoAll history).1.issued := by
  induction history generalizing cluster with
  | nil => exact Nat.le_refl _
  | cons occurrence history ih =>
      exact Nat.le_trans (sets_undergo cluster occurrence).grows.issued (ih _)

/-- Only calls that have been made end. -/
theorem made_undergoAll (coherent : Coherent (fun _ _ _ => True) asked cluster)
    (history : List Occurrence) {outcome : Outcome}
    (finish : .finish call outcome ∈ (cluster.undergoAll history).2) :
    call < (cluster.undergoAll history).1.issued := by
  induction history generalizing cluster asked with
  | nil => cases finish
  | cons occurrence history ih =>
      obtain ⟨later, advance⟩ := advance_undergo coherent occurrence
      rcases List.mem_append.mp finish with now | afterwards
      · exact Nat.lt_of_lt_of_le (advance.made call outcome now) (issued_le_undergoAll _ history)
      · exact ih advance.coherent afterwards

end ReadThrough.Cluster
