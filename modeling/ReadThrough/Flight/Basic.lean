/-!
# Shared computations

At most one computation runs for a key.  The call that finds none leads a new
one; a call that finds one joins it and waits for its outcome.  Every
computation has a ticket of its own, so that an outcome reaches exactly the
calls that joined it, whatever happens to the key later on.
-/

namespace ReadThrough

/-- The running computations and the outcomes of the former ones. -/
structure Flight (ρ : Type) where
  /-- The keys with a running computation, each with its ticket. -/
  running : List (String × Nat)
  /-- The outcomes by ticket. -/
  settled : List (Nat × ρ)
  /-- The number of tickets given out. -/
  issued : Nat
  deriving DecidableEq, Repr

namespace Flight

variable {ρ : Type}

def empty : Flight ρ := ⟨[], [], 0⟩

instance : Inhabited (Flight ρ) := ⟨empty⟩

inductive Role where
  | lead (ticket : Nat)
  | join (ticket : Nat)
  deriving DecidableEq, Repr

def enter (flight : Flight ρ) (key : String) : Role × Flight ρ :=
  match flight.running.lookup key with
  | some ticket => (.join ticket, flight)
  | none =>
    (.lead flight.issued,
      { flight with
        running := (key, flight.issued) :: flight.running
        issued := flight.issued + 1 })

/-- Publish the outcome of a computation and free its key. -/
def settle (flight : Flight ρ) (key : String) (ticket : Nat) (outcome : ρ) : Flight ρ :=
  { flight with
    running := flight.running.filter fun entry => entry.1 ≠ key
    settled := (ticket, outcome) :: flight.settled }

def outcome? (flight : Flight ρ) (ticket : Nat) : Option ρ :=
  flight.settled.lookup ticket

def inFlight (flight : Flight ρ) : Nat := flight.running.length

end Flight

end ReadThrough
