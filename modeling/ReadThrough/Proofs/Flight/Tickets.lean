import Mathlib.Logic.Function.Basic
import ReadThrough.Proofs.Flight.Transition

/-!
# The keys of the tickets

A ticket stands for the key for which it was given out, even after the key is
led again under another ticket.  Whoever holds a ticket for a key can take up
its outcome without looking at the key again.
-/

namespace ReadThrough.Flight

variable {ρ : Type}

/-- The ticket was given out, for this key. -/
def Belongs (keyOf : Nat → String) (flight : Flight ρ) (ticket : Nat) (key : String) : Prop :=
  ticket < flight.issued ∧ keyOf ticket = key

def assign (keyOf : Nat → String) (flight : Flight ρ) (key : String) : Nat → String :=
  Function.update keyOf flight.issued key

/-- The running computations have tickets of their keys, and so have the published outcomes. -/
structure Keyed (right : String → ρ → Prop) (keyOf : Nat → String) (flight : Flight ρ) : Prop where
  running : ∀ key ticket, flight.running.lookup key = some ticket →
    Belongs keyOf flight ticket key
  settled : ∀ ticket outcome, flight.outcome? ticket = some outcome →
    ticket < flight.issued ∧ right (keyOf ticket) outcome

variable {keyOf : Nat → String} {flight : Flight ρ}

theorem Belongs.register {ticket : Nat} {key : String} (belongs : Belongs keyOf flight ticket key)
    (new : String) : Belongs (assign keyOf flight new) (flight.register new) ticket key := by
  obtain ⟨given, rfl⟩ := belongs
  constructor
  · exact Nat.lt_succ_of_lt given
  · exact Function.update_of_ne (Nat.ne_of_lt given) _ _

theorem belongs_register (keyOf : Nat → String) (flight : Flight ρ) (key : String) :
    Belongs (assign keyOf flight key) (flight.register key) flight.issued key := by
  constructor
  · exact Nat.lt_succ_self _
  · exact Function.update_self _ _ _

namespace Keyed

variable {right other : String → ρ → Prop}

theorem empty (keyOf : Nat → String) : Keyed right keyOf (Flight.empty : Flight ρ) where
  running := by
    intro key ticket found
    cases found
  settled := by
    intro ticket outcome published
    cases published

theorem mono (keyed : Keyed right keyOf flight)
    (weaker : ∀ key outcome, right key outcome → other key outcome) :
    Keyed other keyOf flight where
  running := keyed.running
  settled := by
    intro ticket outcome published
    obtain ⟨given, holds⟩ := keyed.settled ticket outcome published
    exact ⟨given, weaker _ _ holds⟩

theorem register (keyed : Keyed right keyOf flight) (key : String) :
    Keyed right (assign keyOf flight key) (flight.register key) where
  running := by
    intro other ticket found
    rw [lookup_register] at found
    split at found
    · subst other
      cases found
      exact belongs_register keyOf flight key
    · exact (keyed.running other ticket found).register key
  settled := by
    intro ticket outcome published
    obtain ⟨given, holds⟩ := keyed.settled ticket outcome published
    have old : Belongs keyOf flight ticket (keyOf ticket) := ⟨given, rfl⟩
    have belongs := old.register key
    exact ⟨belongs.1, belongs.2 ▸ holds⟩

theorem settle (keyed : Keyed right keyOf flight) {ticket : Nat} {key : String}
    (belongs : Belongs keyOf flight ticket key) {outcome : ρ} (holds : right key outcome) :
    Keyed right keyOf (flight.settle key ticket outcome) where
  running := by
    intro other otherTicket found
    rw [lookup_settle] at found
    split at found
    · cases found
    · exact keyed.running other otherTicket found
  settled := by
    intro otherTicket published found
    rw [outcome?_settle] at found
    split at found
    · subst otherTicket
      cases found
      exact ⟨belongs.1, belongs.2 ▸ holds⟩
    · exact keyed.settled otherTicket published found

theorem outcome (keyed : Keyed right keyOf flight) {ticket : Nat} {key : String} {outcome : ρ}
    (belongs : Belongs keyOf flight ticket key) (published : flight.outcome? ticket = some outcome) :
    right key outcome :=
  belongs.2 ▸ (keyed.settled ticket outcome published).2

end Keyed

/-- No running computation has its outcome yet. -/
def Unsettled (flight : Flight ρ) : Prop :=
  ∀ key ticket, flight.running.lookup key = some ticket → flight.outcome? ticket = none

namespace Unsettled

variable {right : String → ρ → Prop}

theorem empty : Unsettled (Flight.empty : Flight ρ) := by
  intro key ticket found
  cases found

theorem register (unsettled : Unsettled flight) (keyed : Keyed right keyOf flight) (key : String) :
    Unsettled (flight.register key) := by
  intro other ticket found
  rw [lookup_register] at found
  split at found
  · cases found
    -- The next ticket has not been given out, so nothing is published under it.
    cases published : flight.outcome? flight.issued with
    | none => exact published
    | some outcome => exact absurd (keyed.settled _ _ published).1 (Nat.lt_irrefl _)
  · exact unsettled other ticket found

theorem settle (unsettled : Unsettled flight) (keyed : Keyed right keyOf flight) {key : String}
    {ticket : Nat} (belongs : Belongs keyOf flight ticket key) (outcome : ρ) :
    Unsettled (flight.settle key ticket outcome) := by
  intro other otherTicket found
  rw [lookup_settle] at found
  split at found
  · cases found
  · rename_i different
    have apart : otherTicket ≠ ticket := by
      rintro rfl
      exact different ((keyed.running other otherTicket found).2.symm.trans belongs.2)
    rw [outcome?_settle, if_neg apart]
    exact unsettled other otherTicket found

end Unsettled

/-- At most one computation begins, or one ends with an outcome that it may have. -/
inductive Change (may : String → Nat → ρ → Prop) (flight : Flight ρ) : Flight ρ → Prop where
  | stays : Change may flight flight
  | begins {key : String} (free : flight.running.lookup key = none) :
      Change may flight (flight.register key)
  | ends {key : String} {ticket : Nat} {outcome : ρ} (allowed : may key ticket outcome) :
      Change may flight (flight.settle key ticket outcome)

namespace Change

variable {right : String → ρ → Prop} {may : String → Nat → ρ → Prop} {next : Flight ρ}

/-- An outcome was published before, or is one that a computation ends with. -/
theorem published (change : Change may flight next) {ticket : Nat} {outcome : ρ}
    (found : next.outcome? ticket = some outcome) :
    flight.outcome? ticket = some outcome ∨ ∃ key, may key ticket outcome := by
  cases change with
  | stays | begins => exact Or.inl found
  | @ends key settled left allowed =>
      rw [outcome?_settle] at found
      split at found
      · rename_i own
        cases found
        exact Or.inr ⟨key, own ▸ allowed⟩
      · exact Or.inl found

theorem unsettled (change : Change may flight next) (unsettled : Unsettled flight)
    (keyed : Keyed right keyOf flight)
    (belongs : ∀ key ticket outcome, may key ticket outcome →
      Belongs keyOf flight ticket key) : Unsettled next := by
  cases change with
  | stays => exact unsettled
  | begins => exact unsettled.register keyed _
  | ends allowed => exact unsettled.settle keyed (belongs _ _ _ allowed) _

end Change

end ReadThrough.Flight
