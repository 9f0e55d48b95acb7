import Mathlib.Tactic.Common
import ReadThrough.Agenda

/-!
# What an agenda performs

An agenda performs what was planned before and what its activities plan.  So a
property of all of these, and one of the state which such activities keep, hold
throughout.
-/

namespace ReadThrough

variable {α σ : Type}

def Consequence.activity : Consequence α → α
  | .goOn activity | .plan _ _ activity | .limit _ _ activity => activity

/-- The activity does not wait for the end of a turn. -/
def Consequence.Unlimited : Consequence α → Prop
  | .goOn _ | .plan _ _ _ => True
  | .limit _ _ _ => False

structure Turn.Holds (fits : α → Prop) (turn : Turn α) : Prop where
  activities : ∀ activity ∈ turn.activities, fits activity
  last : ∀ activity ∈ turn.last, fits activity

namespace Agenda

variable {fits : α → Prop}

def Holds (fits : α → Prop) (agenda : Agenda α) : Prop :=
  ∀ turn ∈ agenda, turn.Holds fits

theorem holds_modifyTurn {agenda : Agenda α} {change : Turn α → Turn α}
    (held : agenda.Holds fits) (kept : ∀ turn, turn.Holds fits → (change turn).Holds fits)
    (time task : Nat) : (agenda.modifyTurn time task change).Holds fits := by
  have fresh : (change ⟨time, task, [], none⟩).Holds fits := kept _ ⟨by simp, by simp⟩
  induction agenda with
  | nil =>
      rw [modifyTurn, Holds, List.forall_mem_singleton]
      exact fresh
  | cons turn rest ih =>
      obtain ⟨first, others⟩ := List.forall_mem_cons.mp held
      rw [modifyTurn]
      split
      · exact List.forall_mem_cons.mpr ⟨kept turn first, others⟩
      · split
        · exact List.forall_mem_cons.mpr ⟨fresh, held⟩
        · exact List.forall_mem_cons.mpr ⟨first, ih others⟩

theorem holds_plan {agenda : Agenda α} (held : agenda.Holds fits)
    {consequence : Consequence α} (fit : fits consequence.activity) :
    (agenda.plan consequence).Holds fits := by
  cases consequence with
  | goOn activity => exact held
  | plan time task activity =>
      refine holds_modifyTurn held (fun turn own => ?_) time task
      refine ⟨fun other present => ?_, own.last⟩
      rcases List.mem_append.mp present with old | new
      · exact own.activities other old
      · exact List.mem_singleton.mp new ▸ fit
  | limit time task activity =>
      refine holds_modifyTurn held (fun turn own => ?_) time task
      refine ⟨own.activities, fun other present => ?_⟩
      cases present
      exact fit

theorem holds_foldl_plan {agenda : Agenda α} (held : agenda.Holds fits)
    {consequences : List (Consequence α)}
    (fit : ∀ consequence ∈ consequences, fits consequence.activity) :
    (consequences.foldl plan agenda).Holds fits := by
  induction consequences generalizing agenda with
  | nil => exact held
  | cons consequence rest ih =>
      obtain ⟨first, others⟩ := List.forall_mem_cons.mp fit
      exact ih (holds_plan held first) others

theorem holds_follow {turn : Turn α} {rest : Agenda α} (first : turn.Holds fits)
    (others : rest.Holds fits) {consequences : List (Consequence α)}
    (fit : ∀ consequence ∈ consequences, fits consequence.activity) :
    (follow turn rest consequences).Holds fits := by
  rw [follow]
  refine holds_foldl_plan ?_ fit
  refine List.forall_mem_cons.mpr ⟨⟨fun activity present => ?_, first.last⟩, others⟩
  rcases List.mem_append.mp present with atOnce | later
  · obtain ⟨consequence, brought, same⟩ := List.mem_filterMap.mp atOnce
    have fitting := fit consequence brought
    cases consequence <;> cases same
    exact fitting
  · exact first.activities activity later

theorem holds_next? {agenda rest : Agenda α} {activity : α} {turn : Turn α}
    (held : agenda.Holds fits) (next : agenda.next? = some (activity, turn, rest)) :
    fits activity ∧ turn.Holds fits ∧ rest.Holds fits := by
  induction agenda with
  | nil => cases next
  | cons first others ih =>
      obtain ⟨own, heldOthers⟩ := List.forall_mem_cons.mp held
      rw [next?] at next
      split at next
      next planned activities written =>
        cases next
        obtain ⟨fit, fits⟩ := List.forall_mem_cons.mp (written ▸ own.activities)
        exact ⟨fit, ⟨fits, own.last⟩, heldOthers⟩
      next planned written last =>
        cases next
        exact ⟨own.last activity last, ⟨own.activities, nofun⟩, heldOthers⟩
      next => exact ih heldOthers next

/-- What every activity that is performed keeps holds in the end. -/
theorem run_keeps {perform : Turn α → α → σ → σ × List (Consequence α)} {motive : σ → Prop}
    (kept : ∀ turn activity state, fits activity → motive state →
      motive (perform turn activity state).1 ∧
        ∀ consequence ∈ (perform turn activity state).2, fits consequence.activity)
    (limit : Nat) {agenda : Agenda α} (planned : agenda.Holds fits) {state : σ}
    (held : motive state) : motive (run perform limit agenda state) := by
  induction limit generalizing agenda state with
  | zero => exact held
  | succ limit ih =>
      rw [run]
      split
      next => exact held
      next activity turn rest next =>
        obtain ⟨fit, own, others⟩ := holds_next? planned next
        obtain ⟨heldNext, fits⟩ := kept turn activity state fit held
        exact ih (holds_follow own others fits) heldNext

/-! ## One thing at a time -/

/-- Exactly these activities are planned, and no turn ends with another one. -/
structure Plans (activities : List α) (agenda : Agenda α) : Prop where
  activities : agenda.flatMap Turn.activities = activities
  last : ∀ turn ∈ agenda, turn.last = none

theorem Plans.of_cons {turn : Turn α} {rest : Agenda α} (plans : Plans [] (turn :: rest)) :
    turn.activities = [] ∧ turn.last = none ∧ rest.Plans [] := by
  obtain ⟨own, others⟩ := List.append_eq_nil_iff.mp plans.activities
  obtain ⟨last, lasts⟩ := List.forall_mem_cons.mp plans.last
  exact ⟨own, last, others, lasts⟩

theorem next?_of_plans_nil {agenda : Agenda α} (plans : agenda.Plans []) :
    agenda.next? = none := by
  induction agenda with
  | nil => rfl
  | cons turn rest ih =>
      obtain ⟨own, last, others⟩ := plans.of_cons
      rw [next?, own, last]
      exact ih others

/-- The only planned activity comes next, and leaves nothing behind. -/
theorem next?_of_plans_singleton {agenda : Agenda α} {activity : α}
    (plans : agenda.Plans [activity]) :
    ∃ turn rest, agenda.next? = some (activity, turn, rest) ∧ Plans [] (turn :: rest) := by
  induction agenda with
  | nil => cases plans.activities
  | cons turn rest ih =>
      obtain ⟨last, lasts⟩ := List.forall_mem_cons.mp plans.last
      rcases List.append_eq_singleton_iff.mp plans.activities with ⟨own, others⟩ | ⟨own, others⟩
      · rw [next?, own, last]
        exact ih ⟨others, lasts⟩
      · rw [next?, own]
        exact ⟨_, rest, rfl, others, List.forall_mem_cons.mpr ⟨last, lasts⟩⟩

theorem plans_modifyTurn {agenda : Agenda α} (plans : agenda.Plans []) (time task : Nat)
    (activity : α) :
    (agenda.modifyTurn time task fun turn =>
      { turn with activities := turn.activities ++ [activity] }).Plans [activity] := by
  induction agenda with
  | nil => exact ⟨rfl, List.forall_mem_singleton.mpr rfl⟩
  | cons turn rest ih =>
      obtain ⟨own, last, others⟩ := plans.of_cons
      rw [modifyTurn]
      split
      · exact ⟨by simp [own, others.activities], List.forall_mem_cons.mpr ⟨last, others.last⟩⟩
      · split
        · exact ⟨by simp [own, others.activities], List.forall_mem_cons.mpr ⟨rfl, plans.last⟩⟩
        · obtain ⟨planned, kept⟩ := ih others
          exact ⟨by simp [own, planned], List.forall_mem_cons.mpr ⟨last, kept⟩⟩

/-- Whatever follows from the only activity is the only one then. -/
theorem plans_follow {turn : Turn α} {rest : Agenda α} (plans : Plans [] (turn :: rest))
    {consequence : Consequence α} (unlimited : consequence.Unlimited) :
    (follow turn rest [consequence]).Plans [consequence.activity] := by
  obtain ⟨own, last, others⟩ := plans.of_cons
  cases consequence with
  | goOn activity =>
      refine ⟨?_, List.forall_mem_cons.mpr ⟨last, others.last⟩⟩
      simp [follow, plan, atOnce?, own, others.activities, Consequence.activity]
  | plan time task activity => exact plans_modifyTurn plans time task activity
  | limit time task activity => exact unlimited.elim

theorem run_of_plans_nil (perform : Turn α → α → σ → σ × List (Consequence α)) (limit : Nat)
    {agenda : Agenda α} (plans : agenda.Plans []) (state : σ) :
    run perform limit agenda state = state := by
  cases limit with
  | zero => rfl
  | succ limit => rw [run, next?_of_plans_nil plans]

/--
A run in which one activity leads to at most one other comes to its end if each
lowers a rank: then what the last activity brings about holds.
-/
theorem run_reaches {perform : Turn α → α → σ → σ × List (Consequence α)}
    {due : σ → α → Nat → Prop} {done : σ → Prop}
    (progress : ∀ turn activity state rank, due state activity rank →
      ((perform turn activity state).2 = [] ∧ done (perform turn activity state).1) ∨
        ∃ consequence lower, (perform turn activity state).2 = [consequence] ∧
          consequence.Unlimited ∧ lower < rank ∧
            due (perform turn activity state).1 consequence.activity lower)
    {limit rank : Nat} (enough : rank < limit) {agenda : Agenda α} {activity : α}
    (plans : agenda.Plans [activity]) {state : σ} (waits : due state activity rank) :
    done (run perform limit agenda state) := by
  induction limit generalizing rank agenda activity state with
  | zero => exact absurd enough (Nat.not_lt_zero _)
  | succ limit ih =>
      obtain ⟨turn, rest, next, nothing⟩ := next?_of_plans_singleton plans
      rw [run, next]
      rcases progress turn activity state rank waits with
        ⟨last, ended⟩ | ⟨consequence, lower, only, unlimited, less, later⟩
      · simp only [last]
        change done (run perform limit (turn :: rest) _)
        rw [run_of_plans_nil perform limit nothing]
        exact ended
      · simp only [only]
        exact ih (Nat.lt_of_lt_of_le less (Nat.le_of_lt_succ enough))
          (plans_follow nothing unlimited) later

end Agenda

end ReadThrough
