import ReadThrough.Server.Step

/-!
# What a server can do

Each event either does not fit the phase of a server and changes nothing, or has
one of a few effects.  Left alone while its node runs, a server comes to rest
after a few steps, at an address that can be told beforehand.
-/

namespace ReadThrough.Server

variable {around : Surroundings}

/-! ## Changes of the configuration -/

theorem hear?_eq_some {seen heard : Nat} (hears : around.hear? seen = some heard) :
    seen < around.changes ∧ heard = max (seen + 1) (around.changes - 1) := by
  obtain ⟨config, present, news⟩ := Option.bind_eq_some_iff.mp hears
  rw [Config.hear?] at news
  split at news
  · rename_i missed
    simp only [Surroundings.changes, present, Option.map_some, Option.getD_some]
    exact ⟨missed, (Option.some.inj news).symm⟩
  · cases news

theorem hear?_eq_none_iff {seen : Nat} : around.hear? seen = none ↔ around.changes ≤ seen := by
  rw [Surroundings.hear?, Surroundings.changes]
  cases around.config with
  | none => simp
  | some config => simp [Config.hear?]

/-- A server that hears something compares its address with the selected one. -/
theorem step_hear {seen heard : Nat} (address : String) (settled : Bool)
    (hears : around.hear? seen = some heard) :
    step around ⟨address, settled, .serving seen⟩ .hear =
      compare ⟨address, settled, .serving seen⟩ around heard := by
  simp only [step, hears]

/-! ## Transitions -/

inductive Transition (around : Surroundings) : Server → Event → Server → Prop where
  | ignore (server : Server) (event : Event) : Transition around server event server
  | start (address : String) (settled : Bool) :
      Transition around ⟨address, settled, .idle⟩ .start ⟨address, settled, .ready⟩
  | stop (address : String) (settled : Bool) (ended : around.running = false) :
      Transition around ⟨address, settled, .ready⟩ .attempt ⟨address, settled, .stopped⟩
  | select (address : String) (running : around.running = true) :
      Transition around ⟨address, false, .ready⟩ .attempt ⟨select around.config, true, .opening⟩
  | tryAgain (address : String) (running : around.running = true) :
      Transition around ⟨address, true, .ready⟩ .attempt ⟨address, true, .opening⟩
  | opened (address : String) (settled : Bool) :
      Transition around ⟨address, settled, .opening⟩ .opened
        ⟨address, settled, .serving around.changes⟩
  | refused (address : String) (settled : Bool) :
      Transition around ⟨address, settled, .opening⟩ .refused ⟨address, settled, .pausing⟩
  | retry (address : String) (settled : Bool) :
      Transition around ⟨address, settled, .pausing⟩ .retry ⟨address, settled, .ready⟩
  | stay (address : String) (settled : Bool) {seen heard : Nat}
      (hears : around.hear? seen = some heard) (same : address = Server.select around.config) :
      Transition around ⟨address, settled, .serving seen⟩ .hear ⟨address, settled, .serving heard⟩
  | leave (address : String) (settled : Bool) {seen heard : Nat}
      (hears : around.hear? seen = some heard) (differs : address ≠ Server.select around.config) :
      Transition around ⟨address, settled, .serving seen⟩ .hear ⟨address, false, .closing⟩
  | shutDown (address : String) (settled : Bool) (seen : Nat) (event : Event)
      (ended : around.running = false) :
      Transition around ⟨address, settled, .serving seen⟩ event ⟨address, settled, .closing⟩
  | closed (address : String) (settled : Bool) :
      Transition around ⟨address, settled, .closing⟩ .closed ⟨address, settled, .ready⟩

theorem transition_hear (around : Surroundings) (address : String) (settled : Bool) (seen : Nat) :
    Transition around ⟨address, settled, .serving seen⟩ .hear
      (step around ⟨address, settled, .serving seen⟩ .hear) := by
  cases hears : around.hear? seen with
  | none =>
      have ignored : step around ⟨address, settled, .serving seen⟩ .hear =
          ⟨address, settled, .serving seen⟩ := by
        simp only [step, hears]
      rw [ignored]
      exact .ignore _ _
  | some heard =>
      rw [step_hear address settled hears, compare]
      split
      · cases running : around.running with
        | true => exact .stay address settled hears ‹_›
        | false => exact .shutDown address settled seen _ running
      · exact .leave address settled hears ‹_›

theorem transition (around : Surroundings) (server : Server) (event : Event) :
    Transition around server event (server.step around event) := by
  obtain ⟨address, settled, phase⟩ := server
  cases phase with
  | idle =>
      cases event with
      | start => exact .start address settled
      | _ => exact .ignore _ _
  | ready =>
      cases event with
      | attempt =>
          cases running : around.running with
          | false =>
              simp only [step, running, Bool.not_false, if_true]
              exact .stop address settled running
          | true =>
              simp only [step, running, Bool.not_true, if_true]
              cases settled with
              | false => exact .select address running
              | true => exact .tryAgain address running
      | _ => exact .ignore _ _
  | opening =>
      cases event with
      | opened => exact .opened address settled
      | refused => exact .refused address settled
      | _ => exact .ignore _ _
  | pausing =>
      cases event with
      | retry => exact .retry address settled
      | _ => exact .ignore _ _
  | serving seen =>
      cases event with
      | hear => exact transition_hear around address settled seen
      | check =>
          cases running : around.running with
          | false =>
              simp only [step, running]
              exact .shutDown address settled seen _ running
          | true =>
              simp only [step, running, if_true]
              exact .ignore _ _
      | _ => exact .ignore _ _
  | closing =>
      cases event with
      | closed => exact .closed address settled
      | _ => exact .ignore _ _
  | stopped =>
      cases event with
      | _ => exact .ignore _ _

/-! ## Servers left alone -/

/-- How many steps a server takes at most on its own while its node runs. -/
def stepsLeft (around : Surroundings) (server : Server) : Nat :=
  match server.phase with
  | .idle | .pausing | .stopped => 0
  | .opening => 1
  | .ready => 2
  | .closing => 3
  | .serving seen => if seen < around.changes then 3 + min (around.changes - seen) 2 else 0

/-- The address at which a server rests if it is left alone while its node runs. -/
def destination (around : Surroundings) (server : Server) : String :=
  match server.phase with
  | .serving seen =>
    if server.settled ∧ around.changes ≤ seen then server.address else select around.config
  | _ => if server.settled then server.address else select around.config

/-- A server is at work, and only tries and opens addresses on which it has settled. -/
structure Active (server : Server) : Prop where
  started : server.phase ≠ .idle
  unended : server.phase ≠ .stopped
  orderly : server.settled = true ∨ server.phase = .ready ∨ server.phase = .closing

/-- A server is one step nearer to its rest. -/
structure Nears (around : Surroundings) (server next : Server) : Prop where
  closer : stepsLeft around next < stepsLeft around server
  destination : destination around next = destination around server
  active : Active server → Active next

theorem nears_hear (running : around.running = true) (address : String) (settled : Bool)
    {seen heard : Nat} (hears : around.hear? seen = some heard) :
    Nears around ⟨address, settled, .serving seen⟩
      (compare ⟨address, settled, .serving seen⟩ around heard) := by
  obtain ⟨missed, later⟩ := hear?_eq_some hears
  simp only [compare, running, if_true]
  split
  · rename_i same
    refine ⟨?_, ?_, ?_⟩
    · simp only [stepsLeft]
      split <;> grind
    · simp only [destination]
      grind
    · rintro ⟨-, -, orderly⟩
      exact ⟨nofun, nofun, by simpa using orderly⟩
  · refine ⟨?_, ?_, ?_⟩
    · simp only [stepsLeft]
      grind
    · simp only [destination]
      grind
    · rintro -
      exact ⟨nofun, nofun, Or.inr (Or.inr rfl)⟩

theorem nears_of_next {opens : String → Bool} {server : Server} {event : Event}
    (running : around.running = true) (next : next? opens around server = some event) :
    Nears around server (server.step around event) := by
  obtain ⟨address, settled, phase⟩ := server
  cases phase with
  | idle | pausing | stopped => cases next
  | ready =>
      obtain rfl : Event.attempt = event := Option.some.inj next
      cases settled with
      | false =>
          simp only [step, running]
          exact ⟨by simp [stepsLeft], by simp [destination], fun _ => ⟨nofun, nofun, Or.inl rfl⟩⟩
      | true =>
          simp only [step, running]
          exact ⟨by simp [stepsLeft], by simp [destination], fun _ => ⟨nofun, nofun, Or.inl rfl⟩⟩
  | opening =>
      have chosen : event = .opened ∨ event = .refused := by
        obtain rfl := Option.some.inj next
        cases opens address <;> simp
      rcases chosen with rfl | rfl
      · exact ⟨by simp [stepsLeft, step], by simp [destination, step],
          fun active => ⟨nofun, nofun, Or.inl (by simpa [step] using active.orderly)⟩⟩
      · exact ⟨by simp [stepsLeft, step], by simp [destination, step],
          fun active => ⟨nofun, nofun, Or.inl (by simpa [step] using active.orderly)⟩⟩
  | serving seen =>
      cases hears : around.hear? seen with
      | none => simp [next?, hears, running] at next
      | some heard =>
          obtain rfl : Event.hear = event := by simpa [next?, hears] using next
          rw [step_hear address settled hears]
          exact nears_hear running address settled hears
  | closing =>
      obtain rfl : Event.closed = event := Option.some.inj next
      exact ⟨by simp [stepsLeft, step], by simp [destination, step],
        fun _ => ⟨nofun, nofun, Or.inr (Or.inl rfl)⟩⟩

theorem stepsLeft_le (around : Surroundings) (server : Server) :
    stepsLeft around server ≤ stepLimit := by
  rw [stepsLeft, stepLimit]
  split
  all_goals grind

/-- Where a server at work rests, it serves or pauses, and this is its destination. -/
theorem rest_of_active {opens : String → Bool} {server : Server} (active : Active server)
    (rests : next? opens around server = none) :
    destination around server = server.address ∧
      (server.phase = .pausing ∨
        ∃ seen, server.phase = .serving seen ∧ around.hear? seen = none) := by
  obtain ⟨address, settled, phase⟩ := server
  obtain ⟨started, unended, orderly⟩ := active
  cases phase with
  | idle => exact absurd rfl started
  | stopped => exact absurd rfl unended
  | ready | opening | closing => cases rests
  | pausing =>
      obtain rfl : settled = true := by simpa using orderly
      exact ⟨rfl, Or.inl rfl⟩
  | serving seen =>
      obtain rfl : settled = true := by simpa using orderly
      have nothing : around.hear? seen = none := by
        cases hears : around.hear? seen with
        | none => rfl
        | some heard => simp [next?, hears] at rests
      refine ⟨?_, Or.inr ⟨seen, rfl, nothing⟩⟩
      simp [destination, hear?_eq_none_iff.mp nothing]

/-- A server that is left alone rests at its destination, where it serves or pauses. -/
theorem settle_rests (opens : String → Bool) {server : Server} (running : around.running = true)
    (active : Active server) {limit : Nat} (enough : stepsLeft around server ≤ limit) :
    let rested := settle opens around limit server
    rested.address = destination around server ∧
      (rested.phase = .pausing ∨
        ∃ seen, rested.phase = .serving seen ∧ around.hear? seen = none) := by
  induction limit generalizing server with
  | zero =>
      have rests : next? opens around server = none := by
        refine Option.eq_none_iff_forall_ne_some.mpr fun event next => ?_
        exact absurd (Nat.lt_of_lt_of_le (nears_of_next running next).closer enough)
          (Nat.not_lt_zero _)
      have rest := rest_of_active active rests
      exact ⟨rest.1.symm, rest.2⟩
  | succ limit ih =>
      rw [settle]
      cases next : next? opens around server with
      | none =>
          have rest := rest_of_active active next
          exact ⟨rest.1.symm, rest.2⟩
      | some event =>
          have nears := nears_of_next running next
          rw [← nears.destination]
          exact ih (nears.active active)
            (Nat.le_of_lt_succ (Nat.lt_of_lt_of_le nears.closer enough))

end ReadThrough.Server
