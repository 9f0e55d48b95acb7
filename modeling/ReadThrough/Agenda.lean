/-!
# Agendas

Tasks in virtual time.  What a task does at one time is a turn.  Turns come in
the order of their times, and those of one time in the order in which the first
activity of each was planned.  A turn may end with a last activity, such as the
end of a time limit, which comes after everything else that the task does then.
-/

namespace ReadThrough

/-- What a task does at a time. -/
structure Turn (α : Type) where
  time : Nat
  task : Nat
  activities : List α
  /-- What comes after all other activities. -/
  last : Option α
  deriving DecidableEq, Repr

/-- The planned turns in the order in which they take place. -/
abbrev Agenda (α : Type) := List (Turn α)

inductive Consequence (α : Type) where
  /-- The task goes on in the same turn. -/
  | goOn (activity : α)
  /-- A task goes on in a turn at the given time. -/
  | plan (time task : Nat) (activity : α)
  /-- A turn of a task at the given time ends with an activity. -/
  | limit (time task : Nat) (activity : α)
  deriving DecidableEq, Repr

namespace Agenda

variable {α σ : Type}

/-- Change the turn of a task at a time, which is put behind those of the same time if it is new. -/
def modifyTurn (time task : Nat) (change : Turn α → Turn α) : Agenda α → Agenda α
  | [] => [change ⟨time, task, [], none⟩]
  | turn :: rest =>
    if turn.time = time ∧ turn.task = task then change turn :: rest
    else if time < turn.time then change ⟨time, task, [], none⟩ :: turn :: rest
    else turn :: modifyTurn time task change rest

def atOnce? : Consequence α → Option α
  | .goOn activity => some activity
  | _ => none

def plan (agenda : Agenda α) : Consequence α → Agenda α
  | .goOn _ => agenda
  | .plan time task activity =>
    modifyTurn time task
      (fun turn => { turn with activities := turn.activities ++ [activity] }) agenda
  | .limit time task activity =>
    modifyTurn time task (fun turn => { turn with last := some activity }) agenda

def ofList (consequences : List (Consequence α)) : Agenda α :=
  consequences.foldl plan []

def next? : Agenda α → Option (α × Turn α × Agenda α)
  | [] => none
  | turn :: rest =>
    match turn.activities, turn.last with
    | activity :: activities, _ => some (activity, { turn with activities }, rest)
    | [], some activity => some (activity, { turn with last := none }, rest)
    | [], none => next? rest

/-- The agenda after an activity; what goes on comes before the rest of the turn. -/
def follow (turn : Turn α) (rest : Agenda α) (consequences : List (Consequence α)) : Agenda α :=
  let activities := consequences.filterMap atOnce? ++ turn.activities
  consequences.foldl plan ({ turn with activities } :: rest)

/-- Perform the activities in order; `limit` bounds their number. -/
def run (perform : Turn α → α → σ → σ × List (Consequence α)) :
    (limit : Nat) → Agenda α → σ → σ
  | 0, _, state => state
  | limit + 1, agenda, state =>
    match next? agenda with
    | none => state
    | some (activity, turn, rest) =>
      let (next, consequences) := perform turn activity state
      run perform limit (follow turn rest consequences) next

end Agenda

end ReadThrough
