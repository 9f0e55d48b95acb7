import ReadThrough.Proofs.Node.Transition
import ReadThrough.Proofs.Server.Transition
import ReadThrough.Proofs.Since

/-!
# Servers that follow the configuration

A server opens and keeps the address that the configuration selects, with one
exception.  While an address cannot be opened the server does not listen, so it
goes on to try the one that was selected first, and a change that it misses in
this way goes unnoticed until the next one.
-/

namespace ReadThrough.Node

def selected (node : Node) : String := Server.select node.config?

section Past

variable (start : Node) (address : String)

/-- The server selects the address and begins to open it. -/
def Selects (before : List Event) (event : Event) : Prop :=
  event = .server .attempt ∧ (start.run before).selected = address ∧
    ∃ former, (start.run before).server = ⟨former, false, .ready⟩

/-- The server keeps the address, which is not open. -/
def Tries (before : List Event) (event : Event) : Prop :=
  let server := (start.run (before ++ [event])).server
  server.address = address ∧ server.settled = true ∧ server.current? = none

/-- The address was selected from the configuration, and has not been open since. -/
def Pending (events : List Event) : Prop :=
  Since (Selects start address) (Tries start address) events

/-- The address is opened at last, and the configuration has come to select another one. -/
def OpensLate (before : List Event) (event : Event) : Prop :=
  event = .server .opened ∧ (start.run before).server = ⟨address, true, .opening⟩ ∧
    (start.run before).selected ≠ address ∧ Pending start address before

/-- The configuration is not changed, and the address stays open. -/
def Stays (before : List Event) (event : Event) : Prop :=
  let next := start.run (before ++ [event])
  next.config? = (start.run before).config? ∧ next.server.current? = some address

/-- The address was opened late, and the configuration has not been changed since. -/
def Missed (events : List Event) : Prop :=
  Since (OpensLate start address) (Stays start address) events

end Past

/-! ## The server agrees with the past -/

/-- What a server does is in accord with the past of a node that runs. -/
inductive Standing (start : Node) (events : List Event) : Server → Prop where
  | unsettled (address : String) {phase : Server.Phase}
      (waits : phase = .idle ∨ phase = .ready ∨ phase = .closing) :
      Standing start events ⟨address, false, phase⟩
  | trying {address : String} {phase : Server.Phase}
      (tries : phase = .ready ∨ phase = .opening ∨ phase = .pausing)
      (pending : Pending start address events) : Standing start events ⟨address, true, phase⟩
  | serving {address : String} {seen : Nat}
      (known : seen ≤ (start.run events).surroundings.changes)
      (current : (start.run events).surroundings.changes ≤ seen →
        address = (start.run events).selected ∨ Missed start address events) :
      Standing start events ⟨address, true, .serving seen⟩

section Steps

variable {start : Node} {events : List Event} {event : Event} {address : String}
  {server next : Server}

theorem Pending.keep (pending : Pending start address events) {phase : Server.Phase}
    (tries : phase = .ready ∨ phase = .opening ∨ phase = .pausing)
    (after : (start.run (events ++ [event])).server = ⟨address, true, phase⟩) :
    Pending start address (events ++ [event]) := by
  refine Since.later pending ?_
  rw [Tries, after]
  obtain rfl | rfl | rfl := tries
  · exact ⟨rfl, rfl, rfl⟩
  · exact ⟨rfl, rfl, rfl⟩
  · exact ⟨rfl, rfl, rfl⟩

theorem selected_congr {node other : Node} (same : other.config? = node.config?) :
    other.selected = node.selected :=
  congrArg Server.select same

theorem changes_congr {node other : Node} (same : other.config? = node.config?) :
    other.surroundings.changes = node.surroundings.changes :=
  congrArg (fun config => (Option.map Config.changes config).getD 0) same

/-- A server that does nothing misses no change that it can still hear of. -/
theorem Standing.unchanged (standing : Standing start events server)
    (after : (start.run (events ++ [event])).server = server)
    (revised : (start.run (events ++ [event])).config? = (start.run events).config? ∨
      (start.run (events ++ [event])).surroundings.changes =
        (start.run events).surroundings.changes + 1) :
    Standing start (events ++ [event]) server := by
  cases standing with
  | unsettled former waits => exact .unsettled former waits
  | trying tries pending => exact .trying tries (pending.keep tries after)
  | serving known current =>
      rcases revised with same | changed
      · refine .serving ?_ fun informed => ?_
        · rwa [changes_congr same]
        · rw [changes_congr same] at informed
          rw [selected_congr same]
          exact (current informed).imp_right fun missed => missed.later ⟨same, by rw [after]; rfl⟩
      · -- The server can still hear of the change.
        refine .serving (by omega) fun informed => ?_
        omega

theorem Standing.moved (standing : Standing start events server) {own : Server.Event}
    (running : (start.run events).running = true)
    (before : (start.run events).server = server)
    (after : (start.run (events ++ [.server own])).server = next)
    (same : (start.run (events ++ [.server own])).config? = (start.run events).config?)
    (moves : Server.Transition (start.run events).surroundings server own next) :
    Standing start (events ++ [.server own]) next := by
  cases moves with
  | ignore => exact standing.unchanged after (Or.inl same)
  | start =>
      cases standing with
      | unsettled => exact .unsettled _ (Or.inr (Or.inl rfl))
      | trying tries => simp at tries
  | stop former settled ended => exact absurd running (by simpa [surroundings] using ended)
  | select former =>
      exact .trying (Or.inr (Or.inl rfl)) (Since.now ⟨rfl, rfl, former, before⟩)
  | tryAgain =>
      cases standing with
      | trying tries pending =>
          exact .trying (Or.inr (Or.inl rfl)) (pending.keep (Or.inr (Or.inl rfl)) after)
  | opened address =>
      cases standing with
      | unsettled former waits => simp at waits
      | trying tries pending =>
          refine .serving (Nat.le_of_eq (changes_congr same).symm) fun _ => ?_
          rw [selected_congr same]
          -- The server listens from now on, so what has changed before goes unnoticed.
          by_cases current : (start.run events).selected = address
          · exact Or.inl current.symm
          · exact Or.inr (Since.now ⟨rfl, before, current, pending⟩)
  | refused =>
      cases standing with
      | unsettled former waits => simp at waits
      | trying tries pending =>
          exact .trying (Or.inr (Or.inr rfl)) (pending.keep (Or.inr (Or.inr rfl)) after)
  | retry =>
      cases standing with
      | unsettled former waits => simp at waits
      | trying tries pending =>
          exact .trying (Or.inl rfl) (pending.keep (Or.inl rfl) after)
  | stay former settled hears current =>
      cases standing with
      | unsettled former waits => simp at waits
      | trying tries => simp at tries
      | serving known =>
          obtain ⟨missed, later⟩ := Server.hear?_eq_some hears
          refine .serving ?_ fun _ => Or.inl ?_
          · rw [changes_congr same]
            omega
          · rw [selected_congr same]
            exact current
  | leave former => exact .unsettled former (Or.inr (Or.inr rfl))
  | shutDown former settled seen _ ended =>
      exact absurd running (by simpa [surroundings] using ended)
  | closed =>
      cases standing with
      | unsettled => exact .unsettled _ (Or.inr (Or.inl rfl))
      | trying tries => simp at tries

theorem Standing.step (standing : Standing start events (start.run events).server)
    (running : (start.run (events ++ [event])).running = true) :
    Standing start (events ++ [event]) (start.run (events ++ [event])).server := by
  have stepped := run_concat start events event
  rw [stepped] at running
  obtain ⟨alive, ⟨own, rfl, moved⟩ | ⟨-, server, revised⟩⟩ := step_cases running
  · rw [moved] at stepped
    refine standing.moved alive rfl rfl (by rw [stepped]; rfl) ?_
    rw [stepped]
    exact Server.transition _ _ own
  · rw [← stepped] at server revised
    rw [server]
    exact standing.unchanged server revised

end Steps

section Runs

variable {start : Node} {events : List Event}

theorem standing_run (idle : start.server = .start)
    (running : (start.run events).running = true) :
    Standing start events (start.run events).server := by
  induction events using List.reverseRecOn with
  | nil =>
      have fresh : (start.run []).server = .start := idle
      rw [fresh]
      exact .unsettled "" (Or.inl rfl)
  | append_singleton events event ih => exact (ih (running_of_run running)).step running

namespace Standing

variable {server : Server} (standing : Standing start events server)

include standing

theorem attempt (running : (start.run events).running = true) (ready : server.phase = .ready) :
    let next := server.step (start.run events).surroundings .attempt
    next.phase = .opening ∧
      (next.address = (start.run events).selected ∨ Pending start next.address events) := by
  have alive : (start.run events).surroundings.running = true := running
  cases standing with
  | unsettled former =>
      obtain rfl := ready
      simp only [Server.step, alive]
      exact ⟨rfl, Or.inl rfl⟩
  | trying tries pending =>
      obtain rfl := ready
      simp only [Server.step, alive]
      exact ⟨rfl, Or.inr pending⟩
  | serving => cases ready

theorem informed {seen : Nat} (serves : server.phase = .serving seen)
    (informed : (start.run events).surroundings.hear? seen = none) :
    server.address = (start.run events).selected ∨ Missed start server.address events := by
  cases standing with
  | unsettled former waits =>
      obtain rfl := serves
      simp at waits
  | trying tries =>
      obtain rfl := serves
      simp at tries
  | serving known current =>
      obtain rfl := Server.Phase.serving.inj serves
      exact current (Server.hear?_eq_none_iff.mp informed)

theorem active (started : server.phase ≠ .idle) : Server.Active server := by
  cases standing with
  | unsettled former waits =>
      rcases waits with rfl | rfl | rfl
      · exact absurd rfl started
      · exact ⟨nofun, nofun, Or.inr (Or.inl rfl)⟩
      · exact ⟨nofun, nofun, Or.inr (Or.inr rfl)⟩
  | trying tries =>
      refine ⟨started, ?_, Or.inl rfl⟩
      rcases tries with rfl | rfl | rfl <;> exact nofun
  | serving => exact ⟨nofun, nofun, Or.inl rfl⟩

/-- A server left alone goes to the selected address, or stays with the one that it has. -/
theorem destination :
    server.destination (start.run events).surroundings = (start.run events).selected ∨
      server.destination (start.run events).surroundings = server.address ∧
        (Pending start server.address events ∨ Missed start server.address events) := by
  cases standing with
  | unsettled former waits =>
      rcases waits with rfl | rfl | rfl <;> exact Or.inl rfl
  | trying tries pending =>
      rcases tries with rfl | rfl | rfl <;> exact Or.inr ⟨rfl, Or.inl pending⟩
  | @serving address seen known current =>
      by_cases informed : (start.run events).surroundings.changes ≤ seen
      · have stays : Server.destination (start.run events).surroundings
            ⟨address, true, .serving seen⟩ = address := by
          simp only [Server.destination, informed, and_self, if_true]
        rw [stays]
        exact (current informed).imp_right fun missed => ⟨rfl, Or.inr missed⟩
      · refine Or.inl ?_
        simp only [Server.destination, informed, and_false, if_false]
        rfl

end Standing

end Runs

/-! ## Following the configuration -/

/--
While a node runs, each attempt to open an address is for the one that the
configuration selects, or for one that was selected before and could not be
opened since.  A server that serves and has heard of all changes does so at the
selected address, unless it opened its address after a change that it missed.
Left alone, a server comes to serve, or to wait for its next attempt, at the
selected address, but for the same exceptions.
-/
theorem address_follows_configuration (start : Node) (idle : start.server = .start)
    (events : List Event) (running : (start.run events).running = true) :
    let node := start.run events
    let server := node.server
    (server.phase = .ready →
      let next := (node.step (.server .attempt)).server
      next.phase = .opening ∧
        (next.address = node.selected ∨ Pending start next.address events)) ∧
    (∀ seen, server.phase = .serving seen → node.surroundings.hear? seen = none →
      server.address = node.selected ∨ Missed start server.address events) ∧
    ∀ opens, server.phase ≠ .idle →
      let rested := server.settle opens node.surroundings Server.stepLimit
      (rested.phase = .pausing ∨
        ∃ seen, rested.phase = .serving seen ∧ node.surroundings.hear? seen = none) ∧
      (rested.address = node.selected ∨
        rested.address = server.address ∧
          (Pending start server.address events ∨ Missed start server.address events)) := by
  intro node server
  have standing : Standing start events server := standing_run idle running
  refine ⟨standing.attempt running, fun _ => standing.informed, ?_⟩
  · intro opens started rested
    obtain ⟨address, rests⟩ := Server.settle_rests opens running (standing.active started)
      (Server.stepsLeft_le node.surroundings server)
    refine ⟨rests, ?_⟩
    rw [address]
    exact standing.destination

/-- The configuration comes to select another address while the first one is taken. -/
theorem address_follows_configuration_missed_change :
    let start := (Node.start "settings.yml").mark .config
    let events : List Event := [.load "server:\n  port: 1", .server .start, .server .attempt,
      .server .refused, .load "", .server .retry, .server .attempt, .server .opened]
    let node := start.run events
    start.server = .start ∧ node.running = true ∧
      node.server = ⟨"0.0.0.0:1", true, .serving 2⟩ ∧ node.surroundings.hear? 2 = none ∧
      node.selected = "0.0.0.0:8001" ∧ Missed start "0.0.0.0:1" events := by
  intro start events node
  have idle : start.server = .start := rfl
  have running : node.running = true := by decide +kernel
  have serves : node.server = ⟨"0.0.0.0:1", true, .serving 2⟩ := by decide +kernel
  have informed : node.surroundings.hear? 2 = none := by decide +kernel
  have selected : node.selected = "0.0.0.0:8001" := by decide +kernel
  refine ⟨idle, running, serves, informed, selected, ?_⟩
  obtain ⟨-, settled, -⟩ := address_follows_configuration start idle events running
  have address : node.server.address = "0.0.0.0:1" := by rw [serves]
  have reason := settled 2 (by rw [serves]) informed
  rw [address, selected] at reason
  exact reason.resolve_left (by decide)

/-- An attempt may be for another address than the selected one, and a server may stay there. -/
theorem not_always_selected_address :
    (¬ ∀ (start : Node) (events : List Event), start.server = .start →
      let node := start.run events
      node.running = true → node.server.phase = .ready →
        (node.step (.server .attempt)).server.address = node.selected) ∧
    ¬ ∀ (start : Node) (events : List Event), start.server = .start →
      let node := start.run events
      node.running = true → ∀ seen, node.server.phase = .serving seen →
        node.surroundings.hear? seen = none → node.server.address = node.selected := by
  let start := (Node.start "settings.yml").mark .config
  let retrying : List Event := [.load "server:\n  port: 1", .server .start, .server .attempt,
    .server .refused, .load "", .server .retry]
  let serving : List Event := retrying ++ [.server .attempt, .server .opened]
  constructor
  · intro follows
    have same := follows start retrying rfl (by decide +kernel) (by decide +kernel)
    exact absurd same (by decide +kernel)
  · intro follows
    have same := follows start serving rfl (by decide +kernel) 2 (by decide +kernel)
      (by decide +kernel)
    exact absurd same (by decide +kernel)

end ReadThrough.Node
