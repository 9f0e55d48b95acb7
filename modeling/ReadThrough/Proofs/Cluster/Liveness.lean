import ReadThrough.Proofs.Cluster.Attended

/-!
# What pending calls wait for

A call may wait for the lookup of another call, that one for the node that it
asks, and the call that answers there for a run of the data source.  The chain
ends there, so as long as a call is pending, a fetch is on its way or a data
source is asked, even if the nodes disagree or a node fetches from itself.
-/

namespace ReadThrough.Cluster

/-- The number of the group of a call, and how far the call has come. -/
def standing? (cluster : Cluster) (call : Nat) : Option (Nat × Group.Caller) := do
  let info ← Ordered.get? call cluster.calls
  let home ← cluster.members[info.member]?
  let caller ← home.group.caller? call
  return (info.member, caller)

/-- The call waits for the lookup that another one leads in its group for its key. -/
def Joins (cluster : Cluster) (call leader : Nat) : Prop :=
  ∃ member key ticket stage,
    cluster.standing? call = some (member, ⟨key, .joined ticket⟩) ∧
      cluster.standing? leader = some (member, ⟨key, stage⟩) ∧ stage.ledLookup? = some ticket

/-- The call waits for a node, at which another one computes the answer for its key. -/
def AnsweredBy (cluster : Cluster) (call answering : Nat) : Prop :=
  ∃ member other key ticket address stage,
    cluster.standing? call = some (member, ⟨key, .fetching ticket address⟩) ∧
      Ordered.get? call cluster.transits = some (.serving answering) ∧
      Ordered.get? answering cluster.calls = some ⟨other, some call⟩ ∧
      cluster.standing? answering = some (other, ⟨key, stage⟩)

/-- The call waits for the data source, which another one runs in its group for its key. -/
def Shares (cluster : Cluster) (call runner : Nat) : Prop :=
  ∃ member key lookup other ticket,
    cluster.standing? call = some (member, ⟨key, .waiting lookup ticket⟩) ∧
      cluster.standing? runner = some (member, ⟨key, .loading other ticket⟩)

/-- The data source is asked for the call. -/
def Runs (cluster : Cluster) (call : Nat) : Prop :=
  ∃ member key lookup ticket,
    cluster.standing? call = some (member, ⟨key, .loading lookup ticket⟩)

/-- The call waits for a node, and its fetch is on its way: there, back, or back without answer. -/
def Travels (cluster : Cluster) (call : Nat) : Prop :=
  (∃ member key ticket address,
    cluster.standing? call = some (member, ⟨key, .fetching ticket address⟩)) ∧
  ∃ transit, Ordered.get? call cluster.transits = some transit ∧
    ∀ answering, transit = .serving answering → Ordered.get? answering cluster.calls = none

/-- No waiting call can take up an outcome. -/
def AtRest (cluster : Cluster) : Prop :=
  ∀ entry ∈ cluster.calls, (cluster.step (.resume entry.1)).2 = []

instance (cluster : Cluster) : Decidable cluster.AtRest :=
  inferInstanceAs (Decidable (∀ entry ∈ cluster.calls, (cluster.step (.resume entry.1)).2 = []))

section

variable {cluster : Cluster} {member call : Nat} {home : Member} {caller : Group.Caller}
  {key : String}

theorem standing?_eq_some :
    cluster.standing? call = some (member, caller) ↔
      ∃ fetcher home, Ordered.get? call cluster.calls = some ⟨member, fetcher⟩ ∧
        cluster.members[member]? = some home ∧ home.group.caller? call = some caller := by
  simp only [standing?, Option.bind_eq_bind, Option.bind_eq_some_iff, Option.pure_def,
    Option.some.injEq, Prod.mk.injEq]
  constructor
  · rintro ⟨⟨member, fetcher⟩, own, home, found, caller, waits, rfl, rfl⟩
    exact ⟨fetcher, home, own, found, waits⟩
  · rintro ⟨fetcher, home, own, found, waits⟩
    exact ⟨⟨member, fetcher⟩, own, home, found, caller, waits, rfl, rfl⟩

/-- The end of a call shows. -/
theorem absorbAll_ne_nil {outcome : Outcome} {effects : List Group.Effect}
    (finish : .finish call outcome ∈ effects) : (absorbAll member cluster effects).2 ≠ [] := by
  have shown (cluster : Cluster) : (cluster.conclude call outcome).2 ≠ [] := by
    rw [conclude]
    split
    · simp [answer]
    · simp
  induction effects generalizing cluster with
  | nil => cases finish
  | cons effect effects ih =>
      rw [absorbAll_cons]
      rcases List.mem_cons.mp finish with rfl | later
      · exact List.append_ne_nil_of_left_ne_nil (shown cluster) _
      · exact List.append_ne_nil_of_right_ne_nil _ (ih later)

namespace AtRest

variable (rest : cluster.AtRest)

include rest

/-- A call that could take up an outcome has done so. -/
theorem not_finish {fetcher : Option Nat}
    (own : Ordered.get? call cluster.calls = some ⟨member, fetcher⟩)
    (found : cluster.members[member]? = some home) (outcome : Outcome) :
    .finish call outcome ∉ (home.group.step (cluster.choiceOf home) (.resume call)).2 := by
  intro finish
  have silent := rest (call, ⟨member, fetcher⟩) (Ordered.mem_of_get? own)
  rw [step, stepCall, own] at silent
  simp only [stepMember, found] at silent
  exact absorbAll_ne_nil finish silent

theorem joined_unpublished {fetcher : Option Nat} {ticket : Nat}
    (own : Ordered.get? call cluster.calls = some ⟨member, fetcher⟩)
    (found : cluster.members[member]? = some home)
    (waits : home.group.caller? call = some ⟨key, .joined ticket⟩) :
    home.group.lookups.outcome? ticket = none := by
  cases published : home.group.lookups.outcome? ticket with
  | none => rfl
  | some outcome =>
      refine absurd ?_ (rest.not_finish own found outcome)
      simp [Group.step, waits, published, Group.finish]

theorem waiting_unpublished {fetcher lookup : Option Nat} {ticket : Nat}
    (own : Ordered.get? call cluster.calls = some ⟨member, fetcher⟩)
    (found : cluster.members[member]? = some home)
    (waits : home.group.caller? call = some ⟨key, .waiting lookup ticket⟩) :
    home.group.sourceRuns.outcome? ticket = none := by
  cases published : home.group.sourceRuns.outcome? ticket with
  | none => rfl
  | some outcome =>
      refine absurd ?_ (rest.not_finish own found outcome)
      simp [Group.step, waits, published, Group.finish]

end AtRest

/-! ## The links of the chain -/

variable {right : String → String → Outcome → Prop} {asked : Nat → String × String}

theorem Coherent.standing (coherent : Coherent right asked cluster)
    (found : cluster.members[member]? = some home)
    (waits : home.group.caller? call = some caller) :
    cluster.standing? call = some (member, caller) := by
  obtain ⟨-, fetcher, own⟩ := coherent.held member home call caller found waits
  exact standing?_eq_some.mpr ⟨fetcher, home, own, found, waits⟩

variable (attended : cluster.Attended none) (coherent : Coherent right asked cluster)

include attended

theorem Attended.standing (alive : Ordered.get? call cluster.calls ≠ none) :
    ∃ member caller, cluster.standing? call = some (member, caller) := by
  obtain ⟨⟨member, fetcher⟩, own⟩ := Option.ne_none_iff_exists'.mp alive
  obtain ⟨home, found, known⟩ := attended.alive call _ nofun own
  obtain ⟨caller, waits⟩ := Option.ne_none_iff_exists'.mp known
  exact ⟨member, caller, standing?_eq_some.mpr ⟨fetcher, home, own, found, waits⟩⟩

include coherent

/-- A call that joined a lookup waits for the call that leads it. -/
theorem Attended.joins (rest : cluster.AtRest) {ticket : Nat}
    (stands : cluster.standing? call = some (member, ⟨key, .joined ticket⟩)) :
    ∃ leader stage, cluster.standing? leader = some (member, ⟨key, stage⟩) ∧
      stage.ledLookup? = some ticket ∧ cluster.Joins call leader := by
  obtain ⟨fetcher, home, own, found, waits⟩ := standing?_eq_some.mp stands
  have kept := attended.groups member home found
  rcases kept.joined call key ticket waits with running | published
  · obtain ⟨leader, stage, leads, carries⟩ := (kept.lookups.running key ticket).mp running
    have standing := coherent.standing found leads
    exact ⟨leader, stage, standing, carries, member, key, ticket, stage, stands, standing, carries⟩
  · rw [rest.joined_unpublished own found waits] at published
    cases published

/-- A call that waits for the data source waits for the call that runs it. -/
theorem Attended.shares (rest : cluster.AtRest) {lookup : Option Nat} {ticket : Nat}
    (stands : cluster.standing? call = some (member, ⟨key, .waiting lookup ticket⟩)) :
    ∃ runner, cluster.Shares call runner ∧ cluster.Runs runner := by
  obtain ⟨fetcher, home, own, found, waits⟩ := standing?_eq_some.mp stands
  have kept := attended.groups member home found
  rcases kept.waiting call key lookup ticket waits with running | published
  · obtain ⟨runner, stage, runs, carries⟩ := (kept.sourceRuns.running key ticket).mp running
    have standing := coherent.standing found runs
    cases stage with
    | loading other _ =>
        cases carries
        exact ⟨runner, ⟨member, key, lookup, other, ticket, stands, standing⟩, member, key, other,
          ticket, standing⟩
    | joined | fetching | waiting => cases carries
  · rw [rest.waiting_unpublished own found waits] at published
    cases published

/-- The fetch of a call is on its way, or a call that asks nobody else answers it. -/
theorem Attended.fetches {ticket : Nat} {address : String}
    (stands : cluster.standing? call = some (member, ⟨key, .fetching ticket address⟩)) :
    cluster.Travels call ∨ ∃ answering other stage, cluster.AnsweredBy call answering ∧
      cluster.standing? answering = some (other, ⟨key, stage⟩) ∧ stage.lookup? = none := by
  obtain ⟨fetcher, home, own, found, waits⟩ := standing?_eq_some.mp stands
  obtain ⟨transit, underWay⟩ := Option.ne_none_iff_exists'.mp
    (attended.fetching member home call key ticket address nofun found waits)
  have fetching : ∃ member key ticket address,
      cluster.standing? call = some (member, ⟨key, .fetching ticket address⟩) :=
    ⟨member, key, ticket, address, stands⟩
  cases transit with
  | travelling | answered => exact Or.inl ⟨fetching, _, underWay, nofun⟩
  | serving answering =>
      cases known : Ordered.get? answering cluster.calls with
      | none =>
          refine Or.inl ⟨fetching, _, underWay, ?_⟩
          rintro _ ⟨⟩
          exact known
      | some info =>
          obtain ⟨other, source⟩ := info
          obtain ⟨-, answers⟩ := attended.serving call answering underWay
          obtain rfl : source = some call := answers _ known
          obtain ⟨asker, present, alive⟩ := attended.alive answering _ nofun known
          obtain ⟨⟨otherKey, stage⟩, computes⟩ := Option.ne_none_iff_exists'.mp alive
          have alone := attended.answering answering other call asker _ known present computes
          -- Both calls were asked for the same key, since one answers the other.
          obtain ⟨-, same⟩ := coherent.forwarded answering other call known
          obtain ⟨here, -⟩ := coherent.held member home call _ found waits
          obtain ⟨there, -⟩ := coherent.held other asker answering _ present computes
          obtain rfl : otherKey = key :=
            congrArg Prod.snd (there.symm.trans (same.symm.trans here))
          have standing := standing?_eq_some.mpr ⟨_, asker, known, present, computes⟩
          exact Or.inr ⟨answering, other, stage, ⟨member, other, otherKey, ticket, address, stage,
            stands, underWay, known, standing⟩, standing, alone⟩

/-- A call that has not joined a lookup waits for a fetch on its way or for a run. -/
theorem Attended.busy (rest : cluster.AtRest) {stage : Group.Stage}
    (stands : cluster.standing? call = some (member, ⟨key, stage⟩))
    (leads : ∀ ticket, stage ≠ .joined ticket) :
    ∃ answering runner, (answering = call ∨ cluster.AnsweredBy call answering) ∧
      (runner = answering ∨ cluster.Shares answering runner) ∧
      (cluster.Travels runner ∨ cluster.Runs runner) := by
  cases stage with
  | joined ticket => exact absurd rfl (leads ticket)
  | loading lookup ticket =>
      exact ⟨call, call, Or.inl rfl, Or.inl rfl, Or.inr ⟨member, key, lookup, ticket, stands⟩⟩
  | waiting lookup ticket =>
      obtain ⟨runner, shares, runs⟩ := attended.shares coherent rest stands
      exact ⟨call, runner, Or.inl rfl, Or.inr shares, Or.inr runs⟩
  | fetching ticket address =>
      rcases attended.fetches coherent stands with travels |
        ⟨answering, other, stage, answered, standing, alone⟩
      · exact ⟨call, call, Or.inl rfl, Or.inl rfl, Or.inl travels⟩
      · -- The call that answers takes no part in a lookup: it runs the data source or waits.
        cases stage with
        | joined | fetching => cases alone
        | loading lookup ticket =>
            exact ⟨answering, answering, Or.inr answered, Or.inl rfl,
              Or.inr ⟨other, key, lookup, ticket, standing⟩⟩
        | waiting lookup ticket =>
            obtain ⟨runner, shares, runs⟩ := attended.shares coherent rest standing
            exact ⟨answering, runner, Or.inr answered, Or.inr shares, Or.inr runs⟩

/-- From a pending call, a chain of at most three links leads to a fetch on its way or to a run. -/
theorem Attended.chain (rest : cluster.AtRest)
    (pending : Ordered.get? call cluster.calls ≠ none) :
    ∃ leader answering runner, (leader = call ∨ cluster.Joins call leader) ∧
      (answering = leader ∨ cluster.AnsweredBy leader answering) ∧
      (runner = answering ∨ cluster.Shares answering runner) ∧
      (cluster.Travels runner ∨ cluster.Runs runner) := by
  obtain ⟨member, ⟨key, stage⟩, stands⟩ := attended.standing pending
  by_cases joined : ∃ ticket, stage = .joined ticket
  · obtain ⟨ticket, rfl⟩ := joined
    obtain ⟨leader, stage, standing, leads, joins⟩ := attended.joins coherent rest stands
    obtain ⟨answering, runner, links⟩ := attended.busy coherent rest standing (by
      rintro _ rfl
      cases leads)
    exact ⟨leader, answering, runner, Or.inr joins, links⟩
  · obtain ⟨answering, runner, links⟩ := attended.busy coherent rest stands fun ticket same =>
      joined ⟨ticket, same⟩
    exact ⟨call, answering, runner, Or.inl rfl, links⟩

/-- Where nothing is under way, no call is pending. -/
theorem Attended.idle (rest : cluster.AtRest)
    (idle : ∀ runner, ¬ cluster.Travels runner ∧ ¬ cluster.Runs runner) (call : Nat) :
    Ordered.get? call cluster.calls = none := by
  by_contra pending
  obtain ⟨-, -, runner, -, -, -, travels | runs⟩ := attended.chain coherent rest pending
  · exact (idle runner).1 travels
  · exact (idle runner).2 runs

end

/--
However a cluster came about, even if its nodes disagree and a fetch may reach
any node: once no waiting call can take up an outcome, each pending call waits
for the lookup of another one or leads its own, that one goes on by itself or
waits for a call that answers its fetch, and then a run of the data source, by
that call or by another one in its group, or a fetch on its way is awaited.  So
as long as a call is pending, there is such a run or fetch, and a group without
pending calls has no lookup and no run in flight.
-/
theorem pending_calls_wait_for_work (pickers : List Peer.Picker) (history : List Occurrence) :
    let cluster := ((ofNodes pickers).undergoAll history).1
    (cluster.AtRest →
      (∀ call, Ordered.get? call cluster.calls ≠ none →
        ∃ leader answering runner, (leader = call ∨ cluster.Joins call leader) ∧
          (answering = leader ∨ cluster.AnsweredBy leader answering) ∧
          (runner = answering ∨ cluster.Shares answering runner) ∧
          (cluster.Travels runner ∨ cluster.Runs runner)) ∧
      (cluster.calls ≠ [] → ∃ call, cluster.Travels call ∨ cluster.Runs call)) ∧
    ∀ (member : Nat) (home : Member), cluster.members[member]? = some home →
      (∀ call info, Ordered.get? call cluster.calls = some info → info.member ≠ member) →
        home.group.lookups.running = [] ∧ home.group.sourceRuns.running = [] := by
  intro cluster
  obtain ⟨attended, asked, coherent⟩ := reached_undergoAll pickers history
  refine ⟨fun rest => ?_, ?_⟩
  · refine ⟨fun call pending => attended.chain coherent rest pending, fun some => ?_⟩
    obtain ⟨⟨call, info⟩, others, same⟩ := List.exists_cons_of_ne_nil some
    have pending : Ordered.get? call cluster.calls ≠ none := by simp [same, Ordered.get?_cons]
    obtain ⟨-, -, runner, -, -, -, busy⟩ := attended.chain coherent rest pending
    exact ⟨runner, busy⟩
  · intro member home found idle
    have nobody (part : Group.Stage → Option Nat) (call : Nat) (key : String) (ticket : Nat) :
        ¬ home.group.Leads part call key ticket := by
      rintro ⟨stage, waits, -⟩
      obtain ⟨-, fetcher, own⟩ := coherent.held member home call _ found waits
      exact idle call _ own rfl
    have kept := attended.groups member home found
    exact ⟨kept.lookups.running_eq_nil (nobody _), kept.sourceRuns.running_eq_nil (nobody _)⟩

/-- A node fetches from itself, and calls wait for each other there. -/
theorem pending_calls_wait_for_work_self :
    let pickers : List Peer.Picker := [.fixed ⟨[], some "b", ["b"]⟩]
    let history : List Occurrence := [.move (.register 0 "g" 0), .move (.attach 0),
      .move (.event (.get 0 "g" "k")), .move (.event (.getForPeer 0 "g" "k")), .reach 0 0,
      .move (.event (.get 0 "g" "k"))]
    let cluster := ((ofNodes pickers).undergoAll history).1
    cluster.AtRest ∧ Ordered.get? 3 cluster.calls ≠ none ∧
      ∃ leader answering runner, (leader = 3 ∨ cluster.Joins 3 leader) ∧
        (answering = leader ∨ cluster.AnsweredBy leader answering) ∧
        (runner = answering ∨ cluster.Shares answering runner) ∧
        (cluster.Travels runner ∨ cluster.Runs runner) := by
  intro pickers history cluster
  have rest : cluster.AtRest := by decide
  have pending : Ordered.get? 3 cluster.calls ≠ none := by decide
  obtain ⟨chains, -⟩ := pending_calls_wait_for_work pickers history
  exact ⟨rest, pending, (chains rest).1 3 pending⟩

end ReadThrough.Cluster
