import ReadThrough.Proofs.Cluster.Endings
import ReadThrough.Proofs.Cluster.Solitary
import ReadThrough.Server.Exchange

/-!
# Answers of a server

A request that is not answered at once makes a call of its own, and is answered
with the outcome of this call once it ends, whatever happens meanwhile and
however many requests are waiting.  It is answered once, and it is answered for
sure, unless its call is dropped or waits for something outside.
-/

namespace ReadThrough.Server

open Cluster (Occurrence Simulation outcomesOf)
open Http (Target)

inductive Happening where
  | request (request : Request)
  | occur (occurrence : Occurrence)

def answersTo (number : Nat) (answers : List (Nat × Answer)) : List Answer :=
  answers.filterMap fun entry => if entry.1 = number then some entry.2 else none

theorem answersTo_append (number : Nat) (first second : List (Nat × Answer)) :
    answersTo number (first ++ second) = answersTo number first ++ answersTo number second :=
  List.filterMap_append

theorem answersTo_eq_nil {number : Nat} {answers : List (Nat × Answer)}
    (others : ∀ entry ∈ answers, entry.1 ≠ number) : answersTo number answers = [] :=
  List.filterMap_eq_nil_iff.mpr fun entry present => if_neg (others entry present)

namespace Exchange

def start (pickers : List Peer.Picker) : Exchange := ⟨.ofNodes pickers, [], 0⟩

def step (exchange : Exchange) : Happening → Progress
  | .request request => exchange.receive request
  | .occur occurrence => exchange.goOn (exchange.cluster.undergo occurrence)

def run (exchange : Exchange) : List Happening → Progress
  | [] => ⟨exchange, [], []⟩
  | happening :: happenings =>
    let first := exchange.step happening
    let rest := first.next.run happenings
    ⟨rest.next, first.effects ++ rest.effects, first.answers ++ rest.answers⟩

def occurrences (exchange : Exchange) : Happening → List Occurrence
  | .request request =>
    match request.action exchange.cluster with
    | .lookUp forPeer target => [.move (.event (request.lookUp forPeer target))]
    | .respond _ | .report _ => []
  | .occur occurrence => [occurrence]

def history (exchange : Exchange) : List Happening → List Occurrence
  | [] => []
  | happening :: happenings =>
    exchange.occurrences happening ++ (exchange.step happening).next.history happenings

/-- Only calls that were made look up something, and only for requests that were received. -/
def Consistent (exchange : Exchange) : Prop :=
  ∀ call number, Ordered.get? call exchange.requests = some number →
    call < exchange.cluster.issued ∧ number < exchange.received

/-- The call that was made for a request, if there is one. -/
def Serves (exchange : Exchange) (call? : Option Nat) (number : Nat) : Prop :=
  ∀ call, Ordered.get? call exchange.requests = some number ↔ call? = some call

def outcomesFor (call? : Option Nat) (effects : List Cluster.Effect) : List Outcome :=
  call?.elim [] fun call => outcomesOf call effects

variable {exchange : Exchange} {number call : Nat} {call? : Option Nat}

theorem run_append (exchange : Exchange) (before after : List Happening) :
    exchange.run (before ++ after) =
      ⟨((exchange.run before).next.run after).next,
        (exchange.run before).effects ++ ((exchange.run before).next.run after).effects,
        (exchange.run before).answers ++ ((exchange.run before).next.run after).answers⟩ := by
  induction before generalizing exchange with
  | nil => rfl
  | cons happening before ih => simp only [List.cons_append, run, ih, List.append_assoc]

/-! ## What happens to the cluster -/

theorem undergoAll_occurrences (exchange : Exchange) (happening : Happening) :
    exchange.cluster.undergoAll (exchange.occurrences happening) =
      ((exchange.step happening).next.cluster, (exchange.step happening).effects) := by
  cases happening with
  | request request =>
      rw [occurrences, step, receive]
      split <;> rename_i acts
      · simp [acts, goOn, Cluster.undergoAll, Cluster.undergo, Cluster.make]
      · simp [acts, Cluster.undergoAll]
      · simp [acts, Cluster.undergoAll]
  | occur occurrence => simp [occurrences, step, goOn, Cluster.undergoAll]

/-- A run of the servers is a run of the cluster. -/
theorem undergoAll_history (exchange : Exchange) (happenings : List Happening) :
    exchange.cluster.undergoAll (exchange.history happenings) =
      ((exchange.run happenings).next.cluster, (exchange.run happenings).effects) := by
  induction happenings generalizing exchange with
  | nil => rfl
  | cons happening happenings ih =>
      rw [history, Cluster.undergoAll_append, undergoAll_occurrences, ih]
      rfl

theorem mem_history_of_drop {happenings : List Happening}
    (present : .move (.event (.drop call)) ∈ exchange.history happenings) :
    .occur (.move (.event (.drop call))) ∈ happenings := by
  induction happenings generalizing exchange with
  | nil => cases present
  | cons happening happenings ih =>
      rcases List.mem_append.mp present with now | afterwards
      · cases happening with
        | request request =>
            rw [occurrences] at now
            split at now
            · rw [List.mem_singleton, Request.lookUp] at now
              split at now <;> cases now
            · cases now
            · cases now
        | occur occurrence => exact List.mem_singleton.mp now ▸ List.mem_cons_self
      · exact List.mem_cons_of_mem _ (ih afterwards)

/-! ## Who gets which answer -/

theorem outcomesFor_append (call? : Option Nat) (first second : List Cluster.Effect) :
    outcomesFor call? (first ++ second) = outcomesFor call? first ++ outcomesFor call? second := by
  cases call? with
  | none => rfl
  | some call => exact Cluster.outcomesOf_append call first second

/-- A request is answered by the outcomes of its call. -/
theorem Serves.answersTo_goOn (serves : exchange.Serves call? number)
    (result : Cluster × List Cluster.Effect) :
    answersTo number (exchange.goOn result).answers =
      (outcomesFor call? result.2).map .ofOutcome := by
  have each (effect : Cluster.Effect) :
      (answer? exchange.requests effect).bind
          (fun entry => if entry.1 = number then some entry.2 else none) =
        (call?.bind effect.outcomeOf?).map .ofOutcome := by
    cases effect with
    | finish other outcome =>
        by_cases same : call? = some other
        · simp [answer?, (serves other).mpr same, same, Cluster.Effect.outcomeOf?]
        · have foreign : ∀ request, Ordered.get? other exchange.requests = some request →
              request ≠ number := by
            rintro request known rfl
            exact same ((serves other).mp known)
          have silent : call?.bind (Cluster.Effect.finish other outcome).outcomeOf? = none := by
            cases call? with
            | none => rfl
            | some call => exact if_neg fun again => same (congrArg some again.symm)
          rw [silent, answer?]
          cases known : Ordered.get? other exchange.requests with
          | none => rfl
          | some request => exact if_neg (foreign request known)
    | fetch | load | reply | wake | log => cases call? <;> rfl
  have outcomes (effects : List Cluster.Effect) : outcomesFor call? effects =
      effects.filterMap fun effect => call?.bind effect.outcomeOf? := by
    cases call? with
    | none => simp [outcomesFor]
    | some call => rfl
  simp only [goOn, answersTo, outcomes, List.filterMap_filterMap, List.map_filterMap, each]

/-- The servers once a request has made the next call. -/
def calling (exchange : Exchange) : Exchange :=
  { exchange with
    requests := Ordered.put exchange.cluster.issued exchange.received exchange.requests
    received := exchange.received + 1 }

theorem get?_calling (exchange : Exchange) (call : Nat) :
    Ordered.get? call exchange.calling.requests =
      if call = exchange.cluster.issued then some exchange.received
      else Ordered.get? call exchange.requests :=
  Ordered.get?_put ..

theorem receive_lookUp {request : Request} {forPeer : Bool} {target : Target}
    (acts : request.action exchange.cluster = .lookUp forPeer target) :
    exchange.receive request =
      exchange.calling.goOn (exchange.cluster.step (request.lookUp forPeer target)) := by
  simp only [receive, acts]
  rfl

/-- A request is answered at once, or a call is made for it. -/
theorem receive_cases (exchange : Exchange) (request : Request) :
    (∃ answer, exchange.receive request =
      ⟨{ exchange with received := exchange.received + 1 }, [], [(exchange.received, answer)]⟩) ∨
    ∃ forPeer target, exchange.receive request =
      exchange.calling.goOn (exchange.cluster.step (request.lookUp forPeer target)) := by
  cases acts : request.action exchange.cluster with
  | respond response => exact Or.inl ⟨.response response, by simp only [receive, acts]⟩
  | report statistics => exact Or.inl ⟨.statistics statistics, by simp only [receive, acts]⟩
  | lookUp forPeer target => exact Or.inr ⟨forPeer, target, receive_lookUp acts⟩

/-- A request by which a call is made makes the next one. -/
theorem issued_lookUp (cluster : Cluster) (request : Request) (forPeer : Bool) (target : Target) :
    cluster.issued < (cluster.step (request.lookUp forPeer target)).1.issued := by
  have made (makes : Nat → Group.Event) : cluster.issued <
      (cluster.request request.node target.group makes).1.issued := by
    rw [Cluster.request]
    split
    · rename_i member _
      exact (Cluster.Grows.stepMember (cluster.opened member none) member _).issued
    · exact Nat.lt_succ_self _
  rw [Request.lookUp]
  split
  · exact made _
  · exact made _

theorem Consistent.start (pickers : List Peer.Picker) : (Exchange.start pickers).Consistent :=
  nofun

section

variable (consistent : exchange.Consistent)

include consistent

/-- The next call is made for the next request. -/
theorem Consistent.serves_calling : exchange.calling.Serves (some exchange.cluster.issued)
    exchange.received := by
  intro call
  rw [get?_calling, Option.some.injEq]
  split
  · rename_i same
    exact iff_of_true rfl same.symm
  · rename_i different
    refine iff_of_false (fun own => ?_) (Ne.symm different)
    exact absurd (consistent call _ own).2 (Nat.lt_irrefl _)

/-- A request that is answered at once makes no call. -/
theorem Consistent.serves_none : exchange.Serves none exchange.received := by
  refine fun call => iff_of_false (fun own => ?_) nofun
  exact absurd (consistent call _ own).2 (Nat.lt_irrefl _)

theorem Serves.calling (serves : exchange.Serves call? number)
    (received : number < exchange.received) : exchange.calling.Serves call? number := by
  intro call
  rw [get?_calling]
  split
  · rename_i same
    subst same
    refine iff_of_false (fun again => ?_) fun own => ?_
    · cases again
      exact absurd received (Nat.lt_irrefl _)
    · exact absurd (consistent _ _ ((serves _).mpr own)).1 (Nat.lt_irrefl _)
  · exact serves call

end

/-- Nobody is answered before its request has been received. -/
theorem lt_of_mem_goOn {limit : Nat}
    (known : ∀ call number, Ordered.get? call exchange.requests = some number → number < limit)
    (result : Cluster × List Cluster.Effect) :
    ∀ entry ∈ (exchange.goOn result).answers, entry.1 < limit := by
  intro entry present
  obtain ⟨effect, -, same⟩ := List.mem_filterMap.mp present
  cases effect with
  | finish other outcome =>
      obtain ⟨request, own, rfl⟩ := Option.map_eq_some_iff.mp same
      exact known other request own
  | fetch | load | reply | wake | log => cases same

/-- The numbers of the calls and of the requests grow, and nobody is answered too early. -/
structure Grows (exchange : Exchange) (progress : Progress) : Prop where
  consistent : progress.next.Consistent
  received : exchange.received ≤ progress.next.received
  answers : ∀ entry ∈ progress.answers, entry.1 < progress.next.received

theorem Consistent.step (consistent : exchange.Consistent) (happening : Happening) :
    exchange.Grows (exchange.step happening) := by
  cases happening with
  | occur occurrence =>
      have issued := (Cluster.sets_undergo exchange.cluster occurrence).grows.issued
      refine ⟨fun call number own => ?_, Nat.le_refl _, lt_of_mem_goOn (fun call number own => ?_) _⟩
      · exact (consistent call number own).imp_left (Nat.lt_of_lt_of_le · issued)
      · exact (consistent call number own).2
  | request request =>
      rw [Exchange.step]
      rcases exchange.receive_cases request with ⟨answer, same⟩ | ⟨forPeer, target, same⟩
      · rw [same]
        refine ⟨fun call number own => ?_, Nat.le_succ _, ?_⟩
        · exact (consistent call number own).imp_right Nat.lt_succ_of_lt
        · exact List.forall_mem_singleton.mpr (Nat.lt_succ_self _)
      · rw [same]
        have issued := issued_lookUp exchange.cluster request forPeer target
        have made (call number : Nat)
            (own : Ordered.get? call exchange.calling.requests = some number) :
            call ≤ exchange.cluster.issued ∧ number < exchange.received + 1 := by
          rw [get?_calling] at own
          split at own
          · rename_i same
            cases own
            exact ⟨Nat.le_of_eq same, Nat.lt_succ_self _⟩
          · exact (consistent call number own).imp Nat.le_of_lt Nat.lt_succ_of_lt
        refine ⟨fun call number own => ?_, Nat.le_succ _,
          lt_of_mem_goOn (fun call number own => (made call number own).2) _⟩
        exact (made call number own).imp_left (Nat.lt_of_le_of_lt · issued)

theorem Consistent.run (consistent : exchange.Consistent) (happenings : List Happening) :
    exchange.Grows (exchange.run happenings) := by
  induction happenings generalizing exchange with
  | nil => exact ⟨consistent, Nat.le_refl _, nofun⟩
  | cons happening happenings ih =>
      have first := consistent.step happening
      have rest := ih first.consistent
      refine ⟨rest.consistent, Nat.le_trans first.received rest.received, fun entry present => ?_⟩
      rcases List.mem_append.mp present with now | afterwards
      · exact Nat.lt_of_lt_of_le (first.answers entry now) rest.received
      · exact rest.answers entry afterwards

/-- A request that has been received is answered by its call from there on, and by nothing else. -/
theorem Serves.step (serves : exchange.Serves call? number) (consistent : exchange.Consistent)
    (received : number < exchange.received) (happening : Happening) :
    (exchange.step happening).next.Serves call? number ∧
      answersTo number (exchange.step happening).answers =
        (outcomesFor call? (exchange.step happening).effects).map .ofOutcome := by
  cases happening with
  | occur occurrence => exact ⟨serves, serves.answersTo_goOn _⟩
  | request request =>
      rw [Exchange.step]
      rcases exchange.receive_cases request with ⟨answer, same⟩ | ⟨forPeer, target, same⟩
      · rw [same]
        refine ⟨serves, (answersTo_eq_nil ?_).trans ?_⟩
        · exact List.forall_mem_singleton.mpr (Nat.ne_of_gt received)
        · cases call? <;> rfl
      · rw [same]
        have calling := serves.calling consistent received
        exact ⟨calling, calling.answersTo_goOn _⟩

theorem Serves.run (serves : exchange.Serves call? number) (consistent : exchange.Consistent)
    (received : number < exchange.received) (happenings : List Happening) :
    answersTo number (exchange.run happenings).answers =
      (outcomesFor call? (exchange.run happenings).effects).map .ofOutcome := by
  induction happenings generalizing exchange with
  | nil => cases call? <;> rfl
  | cons happening happenings ih =>
      have first := consistent.step happening
      obtain ⟨later, now⟩ := serves.step consistent received happening
      rw [Exchange.run, answersTo_append, outcomesFor_append, List.map_append, now,
        ih later first.consistent (Nat.lt_of_lt_of_le received first.received)]

/-- A request that makes a call is answered by it. -/
theorem Consistent.answersTo_lookUp (consistent : exchange.Consistent) {request : Request}
    {forPeer : Bool} {target : Target}
    (acts : request.action exchange.cluster = .lookUp forPeer target) (after : List Happening) :
    answersTo exchange.received (exchange.run (.request request :: after)).answers =
      (outcomesOf exchange.cluster.issued
        (exchange.run (.request request :: after)).effects).map .ofOutcome := by
  have received : exchange.step (.request request) = exchange.calling.goOn
      (exchange.cluster.step (request.lookUp forPeer target)) := receive_lookUp acts
  have next := (consistent.step (.request request)).consistent
  have serves : (exchange.step (.request request)).next.Serves (some exchange.cluster.issued)
      exchange.received := by
    rw [received]
    exact consistent.serves_calling
  have known : exchange.received < (exchange.step (.request request)).next.received := by
    rw [received]
    exact Nat.lt_succ_self _
  have later := serves.run next known after
  have first := consistent.serves_calling.answersTo_goOn
    (exchange.cluster.step (request.lookUp forPeer target))
  rw [← received] at first
  rw [Exchange.run, answersTo_append, Cluster.outcomesOf_append, List.map_append, later, first,
    received]
  rfl

/-- A request that is answered at once is not answered again. -/
theorem Consistent.answersTo_atOnce (consistent : exchange.Consistent) {request : Request}
    {answer : Answer} (received : exchange.receive request =
      ⟨{ exchange with received := exchange.received + 1 }, [], [(exchange.received, answer)]⟩)
    (after : List Happening) :
    answersTo exchange.received (exchange.run (.request request :: after)).answers = [answer] := by
  have next := (consistent.step (.request request)).consistent
  have serves : (exchange.step (.request request)).next.Serves none exchange.received := by
    rw [Exchange.step, received]
    exact consistent.serves_none
  have known : exchange.received < (exchange.step (.request request)).next.received := by
    rw [Exchange.step, received]
    exact Nat.lt_succ_self _
  rw [Exchange.run, answersTo_append, serves.run next known after, Exchange.step, received]
  simp [answersTo, outcomesFor]

theorem reached_run (pickers : List Peer.Picker) (happenings : List Happening) :
    ((start pickers).run happenings).next.cluster.Reached := by
  have known := Cluster.reached_undergoAll pickers ((start pickers).history happenings)
  rwa [show Cluster.ofNodes pickers = (start pickers).cluster from rfl, undergoAll_history] at known

/-- What comes before a request does not concern it. -/
theorem answersTo_before (pickers : List Peer.Picker) (before : List Happening) :
    answersTo ((start pickers).run before).next.received ((start pickers).run before).answers =
      [] := by
  refine answersTo_eq_nil fun entry present => Nat.ne_of_lt ?_
  exact ((Consistent.start pickers).run before).answers entry present

theorem outcomesOf_before (pickers : List Peer.Picker) (before : List Happening) :
    outcomesOf ((start pickers).run before).next.cluster.issued
      ((start pickers).run before).effects = [] := by
  have coherent : Cluster.Coherent (fun _ _ _ => True) (fun _ => ("", ""))
      (start pickers).cluster := Cluster.coherent_ofNodes pickers
  have made (call : Nat) (outcome : Outcome)
      (finish : .finish call outcome ∈ ((start pickers).cluster.undergoAll
        ((start pickers).history before)).2) :
      call < ((start pickers).cluster.undergoAll ((start pickers).history before)).1.issued :=
    Cluster.made_undergoAll coherent _ finish
  rw [undergoAll_history] at made
  exact Cluster.outcomesOf_eq_nil fun outcome finish => Nat.lt_irrefl _ (made _ outcome finish)

/-- What becomes of the call that a request makes. -/
theorem settled_lookUp {asked : Nat → String × String} (attended : exchange.cluster.Attended none)
    (coherent : Cluster.Coherent (fun _ _ _ => True) asked exchange.cluster) {request : Request}
    {forPeer : Bool} {target : Target}
    (acts : request.action exchange.cluster = .lookUp forPeer target) (after : List Happening) :
    (outcomesOf exchange.cluster.issued
      (exchange.run (.request request :: after)).effects).length ≤ 1 ∧
    (outcomesOf exchange.cluster.issued
        (exchange.run (.request request :: after)).effects = [] →
      Ordered.get? exchange.cluster.issued
          (exchange.run (.request request :: after)).next.cluster.calls ≠ none ∨
        .occur (.move (.event (.drop exchange.cluster.issued))) ∈ after) := by
  let occurrence : Occurrence := .move (.event (request.lookUp forPeer target))
  have happened : exchange.history (.request request :: after) =
      occurrence :: (exchange.step (.request request)).next.history after := by
    rw [history, occurrences, acts]
    rfl
  obtain ⟨makes, asks⟩ : ∃ makes, exchange.cluster.undergo occurrence =
      exchange.cluster.request request.node target.group makes := by
    cases forPeer with
    | true => exact ⟨fun call => .getForPeer call target.key, rfl⟩
    | false => exact ⟨fun call => .get call target.key, rfl⟩
  have settled := Cluster.settled_request attended coherent asks
    (issued_lookUp exchange.cluster request forPeer target)
    ((exchange.step (.request request)).next.history after)
  rw [← happened, undergoAll_history] at settled
  exact settled.imp_right fun waits none => (waits none).imp_right mem_history_of_drop

end Exchange

/--
A request makes the next call, for this key of the group with this name, and is
answered with its outcome: once, not before the call has ended, and for sure
unless the call is dropped or a fetch or a data source is still waited for.
-/
structure LookedUp (reached : Exchange) (request : Request) (forPeer : Bool) (target : Target)
    (after : List Happening) (final : Exchange.Progress) : Prop where
  made : ((reached.receive request).next.cluster, (reached.receive request).effects) =
    reached.cluster.step (request.lookUp forPeer target)
  known : ∀ member, reached.cluster.find? request.node target.group = some member →
    reached.cluster.step (request.lookUp forPeer target) =
      reached.cluster.begin member none fun call =>
        if forPeer then .getForPeer call target.key else .get call target.key
  unknown : reached.cluster.find? request.node target.group = none →
    outcomesOf reached.cluster.issued final.effects = [.error (.unknownGroup target.group)]
  answers : answersTo reached.received final.answers =
    (outcomesOf reached.cluster.issued final.effects).map .ofOutcome
  once : (outcomesOf reached.cluster.issued final.effects).length ≤ 1
  waits : outcomesOf reached.cluster.issued final.effects = [] →
    Ordered.get? reached.cluster.issued final.next.cluster.calls ≠ none ∨
      .occur (.move (.event (.drop reached.cluster.issued))) ∈ after
  ends : final.next.cluster.AtRest →
    (∀ call, ¬ final.next.cluster.Travels call ∧ ¬ final.next.cluster.Runs call) →
    .occur (.move (.event (.drop reached.cluster.issued))) ∉ after →
      ∃ outcome, outcomesOf reached.cluster.issued final.effects = [outcome]

theorem LookedUp.answers_unknown {reached : Exchange} {request : Request} {forPeer : Bool}
    {target : Target} {after : List Happening} {final : Exchange.Progress}
    (lookedUp : LookedUp reached request forPeer target after final)
    (unknown : reached.cluster.find? request.node target.group = none) :
    answersTo reached.received final.answers =
      [.ofOutcome (.error (.unknownGroup target.group))] := by
  rw [lookedUp.answers, lookedUp.unknown unknown, List.map_singleton]

section

variable {cluster : Cluster} {request : Request} {forPeer : Bool} {target : Target}

theorem step_lookUp_of_known {member : Nat}
    (found : cluster.find? request.node target.group = some member) :
    cluster.step (request.lookUp forPeer target) = cluster.begin member none fun call =>
      if forPeer then .getForPeer call target.key else .get call target.key := by
  cases forPeer <;> simp [Request.lookUp, Cluster.step, Cluster.request, found]

theorem step_lookUp_of_unknown (unknown : cluster.find? request.node target.group = none) :
    cluster.step (request.lookUp forPeer target) =
      ({ cluster with issued := cluster.issued + 1 },
        [.finish cluster.issued (.error (.unknownGroup target.group))]) := by
  cases forPeer <;> simp [Request.lookUp, Cluster.step, Cluster.request, unknown]

end

section

variable {pickers : List Peer.Picker} {before : List Happening} {early : Exchange.Progress}
  (reached : (Exchange.start pickers).run before = early) {request : Request}

include reached

/-- At whatever time a request is received by which a call is made, it is answered by this call. -/
theorem lookedUp {forPeer : Bool} {target : Target}
    (acts : request.action early.next.cluster = .lookUp forPeer target)
    (after : List Happening) :
    LookedUp early.next request forPeer target after
      ((Exchange.start pickers).run (before ++ .request request :: after)) := by
  obtain ⟨attendedFinal, _, coherentFinal⟩ :=
    Exchange.reached_run pickers (before ++ .request request :: after)
  have consistent := ((Exchange.Consistent.start pickers).run before).consistent
  have earlyAnswers := Exchange.answersTo_before pickers before
  have earlyOutcomes := Exchange.outcomesOf_before pickers before
  obtain ⟨attended, asked, coherent⟩ := Exchange.reached_run pickers before
  rw [Exchange.run_append] at attendedFinal coherentFinal ⊢
  rw [reached] at attendedFinal coherentFinal attended coherent ⊢
  rw [reached] at consistent earlyAnswers earlyOutcomes
  obtain ⟨once, waits⟩ := Exchange.settled_lookUp attended coherent acts after
  have outcomes : outcomesOf early.next.cluster.issued
      (early.effects ++ (early.next.run (.request request :: after)).effects) =
      outcomesOf early.next.cluster.issued
        (early.next.run (.request request :: after)).effects := by
    rw [Cluster.outcomesOf_append, earlyOutcomes, List.nil_append]
  rw [← outcomes] at once waits
  refine ⟨?_, fun member => step_lookUp_of_known, fun unknown => ?_, ?_, once, waits,
    fun rest idle kept => ?_⟩
  · rw [Exchange.receive_lookUp acts]
    rfl
  · have finished : Cluster.Effect.finish early.next.cluster.issued
        (.error (.unknownGroup target.group)) ∈
          early.effects ++ (early.next.run (.request request :: after)).effects := by
      rw [Exchange.run, Exchange.step, Exchange.receive_lookUp acts,
        step_lookUp_of_unknown unknown]
      exact List.mem_append_right _ List.mem_cons_self
    obtain ⟨outcome, only⟩ := List.length_eq_one_iff.mp
      (Nat.le_antisymm once (List.length_pos_of_mem (Cluster.mem_outcomesOf.mpr finished)))
    have same := Cluster.mem_outcomesOf.mpr finished
    rw [only, List.mem_singleton] at same
    rw [only, same]
  · rw [answersTo_append, earlyAnswers, List.nil_append, consistent.answersTo_lookUp acts after,
      outcomes]
  · have gone := attendedFinal.idle coherentFinal rest idle early.next.cluster.issued
    have ended : outcomesOf early.next.cluster.issued
        (early.effects ++ (early.next.run (.request request :: after)).effects) ≠ [] :=
      fun none => (waits none).elim (absurd gone) kept
    obtain ⟨outcome, others, same⟩ := List.exists_cons_of_ne_nil ended
    rw [same] at once
    exact ⟨outcome, same.trans (by simpa using once)⟩

/-- A request that is answered with the statistics gets these and nothing else. -/
theorem answered_report {statistics : Statistics}
    (acts : request.action early.next.cluster = .report statistics) (after : List Happening) :
    answersTo early.next.received
      ((Exchange.start pickers).run (before ++ .request request :: after)).answers =
        [.statistics statistics] := by
  have consistent := ((Exchange.Consistent.start pickers).run before).consistent
  have earlyAnswers := Exchange.answersTo_before pickers before
  rw [reached] at consistent earlyAnswers
  have received : early.next.receive request =
      ⟨{ early.next with received := early.next.received + 1 }, [],
        [(early.next.received, .statistics statistics)]⟩ := by
    simp only [Exchange.receive, acts]
  rw [Exchange.run_append, answersTo_append, reached, earlyAnswers, List.nil_append]
  exact consistent.answersTo_atOnce received after

end

/-! ## Simulated exchanges -/

def eventHappenings (events : List Cluster.Event) : List Happening :=
  events.map fun event => .occur (.move (.event event))

theorem Exchange.run_eventHappenings (exchange : Exchange) (events : List Cluster.Event) :
    ((exchange.run (eventHappenings events)).next.cluster,
        (exchange.run (eventHappenings events)).effects) =
      exchange.cluster.play (events.map .event) := by
  induction events generalizing exchange with
  | nil => rfl
  | cons event events ih =>
      obtain ⟨cluster, effects⟩ :=
        Prod.mk.inj (ih (exchange.step (.occur (.move (.event event)))).next)
      simp only [eventHappenings, List.map_cons, run, Cluster.play] at cluster effects ⊢
      rw [cluster, effects]
      rfl

/-- In an idle cluster, a simulated exchange ends with an answer, and leaves the cluster idle. -/
theorem exchange_ends {simulation : Simulation} (reached : simulation.cluster.Reached)
    (idle : simulation.cluster.calls = []) (request : Request) :
    (exchange simulation request).2.isSome = true ∧
      (exchange simulation request).1.cluster.Reached ∧
      (exchange simulation request).1.cluster.calls = [] := by
  cases acts : request.action simulation.cluster with
  | respond | report => simp only [exchange, acts]; exact ⟨rfl, reached, idle⟩
  | lookUp forPeer target =>
      obtain ⟨⟨outcome, time, ended⟩, later⟩ :=
        Simulation.call_ends reached idle request.node target.group target.key forPeer
      simp only [exchange, acts, ended]
      exact ⟨rfl, later⟩

/--
A simulated exchange is a run of the servers that begins with this request, and
its answer, if there is one yet, is the answer in this run.
-/
theorem exchange_eq_run (simulation : Simulation) (request : Request) :
    ∃ happenings : List Happening,
      let final := (⟨simulation.cluster, [], 0⟩ : Exchange).run (.request request :: happenings)
      (exchange simulation request).1.cluster = final.next.cluster ∧
        ∀ answer, (exchange simulation request).2 = some answer →
          answer ∈ answersTo 0 final.answers := by
  cases acts : request.action simulation.cluster with
  | respond response =>
      refine ⟨[], ?_⟩
      simp [exchange, acts, Exchange.run, Exchange.step, Exchange.receive, answersTo]
  | report statistics =>
      refine ⟨[], ?_⟩
      simp [exchange, acts, Exchange.run, Exchange.step, Exchange.receive, answersTo]
  | lookUp forPeer target =>
      let opened : Exchange := ⟨simulation.cluster, [], 0⟩
      have consistent : opened.Consistent := nofun
      obtain ⟨events, reached, finishes⟩ :=
        simulation.ensues_call request.node target.group target.key forPeer
      have first : Cluster.Timeline.eventOf
          ⟨request.node, target.group, target.key, forPeer, 0, none⟩ =
          request.lookUp forPeer target := by
        cases forPeer <;> rfl
      have received : opened.step (.request request) = opened.calling.goOn
          (simulation.cluster.step (request.lookUp forPeer target)) :=
        Exchange.receive_lookUp acts
      obtain ⟨cluster, effects⟩ := Prod.mk.inj
        (Exchange.run_eventHappenings (opened.step (.request request)).next events)
      rw [received] at cluster effects
      rw [first, List.map_cons, Cluster.play] at reached finishes
      refine ⟨eventHappenings events, ?_, fun answer answered => ?_⟩
      · rw [Exchange.run, received, cluster]
        simp only [exchange, acts]
        exact reached
      · simp only [exchange, acts] at answered
        obtain ⟨outcome, ended, rfl⟩ := Option.map_eq_some_iff.mp answered
        rw [consistent.answersTo_lookUp acts, Exchange.run, received, effects]
        exact List.mem_map_of_mem (Cluster.mem_outcomesOf.mpr (finishes outcome ended))

end ReadThrough.Server
