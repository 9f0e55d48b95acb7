import Mathlib.Data.List.Induction

/-!
# What happened in a sequence of moves

A statement about the past of a sequence of moves: at some move something
happened, and at every later move something held.  Either may depend on all
moves before.  Whether the statement is true can be told move by move.

A tally says how many moves are of a kind, where this may depend on the state in
which a move is made.  A number that grows by one at these moves and at no
others is this count.
-/

namespace ReadThrough

variable {β : Type}

/-- At some move something happened, and at every later move something held. -/
def Since (happened held : List β → β → Prop) (moves : List β) : Prop :=
  ∃ before move after, moves = before ++ move :: after ∧ happened before move ∧
    ∀ earlier next later, after = earlier ++ next :: later → held (before ++ move :: earlier) next

theorem concat_eq_append_cons {front before after : List β} {last middle : β} :
    front ++ [last] = before ++ middle :: after ↔
      (after = [] ∧ front = before ∧ last = middle) ∨
        ∃ initial, after = initial ++ [last] ∧ front = before ++ middle :: initial := by
  rcases List.eq_nil_or_concat after with rfl | ⟨initial, other, rfl⟩
  · constructor
    · intro same
      obtain ⟨fronts, final⟩ := List.append_inj' same rfl
      exact Or.inl ⟨rfl, fronts, by simpa using final⟩
    · rintro (⟨-, rfl, rfl⟩ | ⟨initial, impossible, -⟩)
      · rfl
      · simp at impossible
  · rw [List.concat_eq_append, ← List.cons_append, ← List.append_assoc]
    constructor
    · intro same
      obtain ⟨rfl, final⟩ := List.append_inj' same rfl
      obtain rfl : last = other := by simpa using final
      exact Or.inr ⟨initial, rfl, rfl⟩
    · rintro (⟨impossible, -⟩ | ⟨rest, same, rfl⟩)
      · simp at impossible
      · obtain ⟨rfl, final⟩ := List.append_inj' same rfl
        rw [final]

namespace Since

variable {happened held : List β → β → Prop} {moves : List β} {last : β}

@[simp]
theorem nil_iff : Since happened held [] ↔ False := by
  constructor
  · rintro ⟨before, move, after, impossible, -⟩
    simp at impossible
  · exact False.elim

/-- It happens now, or it happened before and holds now. -/
theorem concat_iff :
    Since happened held (moves ++ [last]) ↔
      happened moves last ∨ Since happened held moves ∧ held moves last := by
  constructor
  · rintro ⟨before, move, after, same, began, lasted⟩
    rcases concat_eq_append_cons.mp same with ⟨rfl, rfl, rfl⟩ | ⟨initial, rfl, rfl⟩
    · exact Or.inl began
    · refine Or.inr ⟨⟨before, move, initial, rfl, began, ?_⟩, lasted initial last [] rfl⟩
      rintro earlier next later rfl
      exact lasted earlier next (later ++ [last]) (by simp)
  · rintro (began | ⟨⟨before, move, after, rfl, began, lasted⟩, holds⟩)
    · refine ⟨moves, last, [], rfl, began, ?_⟩
      intro earlier next later impossible
      simp at impossible
    · refine ⟨before, move, after ++ [last], by simp, began, ?_⟩
      intro earlier next later same
      rcases concat_eq_append_cons.mp same with ⟨-, rfl, rfl⟩ | ⟨initial, -, rfl⟩
      · exact holds
      · exact lasted earlier next initial rfl

theorem now (began : happened moves last) : Since happened held (moves ++ [last]) :=
  concat_iff.mpr (Or.inl began)

theorem later (since : Since happened held moves) (holds : held moves last) :
    Since happened held (moves ++ [last]) :=
  concat_iff.mpr (Or.inr ⟨since, holds⟩)

theorem mono {happenedOther heldOther : List β → β → Prop} (since : Since happened held moves)
    (began : ∀ before move, happened before move → happenedOther before move)
    (lasted : ∀ before move, held before move → heldOther before move) :
    Since happenedOther heldOther moves := by
  obtain ⟨before, move, after, same, initial, rest⟩ := since
  refine ⟨before, move, after, same, began _ _ initial, ?_⟩
  intro earlier next later split
  exact lasted _ _ (rest earlier next later split)

end Since

/-! ## Counting the moves of a kind -/

variable {σ : Type}

/-- How many of the moves are of a kind, each told from the state in which it is made. -/
def tally (next : σ → β → σ) (kind : σ → β → Bool) (state : σ) : List β → Nat
  | [] => 0
  | move :: moves => (kind state move).toNat + tally next kind (next state move) moves

variable (next : σ → β → σ) (kind : σ → β → Bool) (state : σ)

theorem tally_concat (moves : List β) (last : β) :
    tally next kind state (moves ++ [last]) =
      tally next kind state moves + (kind (moves.foldl next state) last).toNat := by
  induction moves generalizing state with
  | nil => simp [tally]
  | cons move moves ih =>
      rw [List.cons_append, tally, ih (next state move), tally, Nat.add_assoc]
      rfl

end ReadThrough
