import ReadThrough.Proofs.Numeric.Decimal
import ReadThrough.Proofs.Text.Blank
import ReadThrough.Quantity

/-!
# The grammar of quantities

A text has the parts of a quantity exactly if it is written as these parts with
spaces around them.  Hence a reader that knows some units, and that works out
the quantity from a number and a unit, reads exactly the texts that are written
as a number of 64 bits and a known unit.
-/

namespace ReadThrough.Quantity

/-- The text is written as digits and a unit, with spaces before, between and after them. -/
def Written (text : String) (digits unit : List Char) : Prop :=
  ∃ before between after, text.toList =
    List.replicate before ' ' ++ digits ++ List.replicate between ' ' ++ unit ++
      List.replicate after ' '

/-- The text is written as a decimal number and a unit. -/
def Denotes (text : String) (number : Nat) (unit : List Char) : Prop :=
  ∃ digits, Written text digits unit ∧ digits ≠ [] ∧
    (∀ digit ∈ digits, digit.isDigit = true) ∧ Numeric.Decimal.value digits = number

/-- No character of a unit is a space or a digit. -/
def IsWord (unit : List Char) : Prop :=
  ∀ char ∈ unit, isSpace char = false ∧ Text.isDecimalDigit char = false

instance : DecidablePred IsWord := fun unit => List.decidableBAll _ unit

theorem isSpace_eq_true_iff (char : Char) : isSpace char = true ↔ char = ' ' := beq_iff_eq

theorem all_spaces_iff {chars : List Char} :
    (∀ char ∈ chars, isSpace char = true) ↔ ∃ count, chars = List.replicate count ' ' := by
  constructor
  · intro all
    exact ⟨chars.length, List.eq_replicate_of_mem fun char present =>
      (isSpace_eq_true_iff char).mp (all char present)⟩
  · rintro ⟨count, rfl⟩ char present
    rw [List.eq_of_mem_replicate present]
    rfl

/-! ## The parts of a text -/

theorem written_of_ofText? {text : String} {expression : Expression}
    (parts : Expression.ofText? text = some expression) :
    Written text expression.digits expression.unit ∧ expression.digits ≠ [] ∧
      ∀ digit ∈ expression.digits, Text.isDecimalDigit digit = true := by
  rw [Expression.ofText?] at parts
  split at parts
  · cases parts
  · rename_i nonempty
    obtain rfl := Option.some.inj parts
    have runs : ∀ chars : List Char, ∃ count,
        chars.takeWhile isSpace = List.replicate count ' ' :=
      fun chars => all_spaces_iff.mp fun char => List.mem_takeWhile_imp
    obtain ⟨before, leading⟩ := runs text.toList
    obtain ⟨between, middle⟩ :=
      runs ((text.toList.dropWhile isSpace).dropWhile Text.isDecimalDigit)
    obtain ⟨tail, ending, spacesAfter⟩ := Text.exists_dropTrailing_append isSpace
      (((text.toList.dropWhile isSpace).dropWhile Text.isDecimalDigit).dropWhile isSpace)
    obtain ⟨after, rfl⟩ := all_spaces_iff.mp spacesAfter
    refine ⟨⟨before, between, after, ?_⟩, ?_, fun digit => List.mem_takeWhile_imp⟩
    · rw [← leading, ← middle]
      simp only [List.append_assoc, ending, List.takeWhile_append_dropWhile]
    · simpa using nonempty

theorem dropTrailing_word {unit : List Char} (word : IsWord unit) (after : Nat) :
    Text.dropTrailing isSpace ((unit ++ List.replicate after ' ').dropWhile isSpace) = unit := by
  have spaces := all_spaces_iff.mpr ⟨after, rfl⟩
  cases unit with
  | nil =>
      rw [List.nil_append, List.dropWhile_eq_nil_iff.mpr spaces]
      rfl
  | cons first others =>
      have kept : ¬ isSpace first = true := by simp [(word first List.mem_cons_self).1]
      rw [List.cons_append, List.dropWhile_cons_of_neg kept, ← List.cons_append,
        Text.dropTrailing_append spaces, Text.dropTrailing_eq_self_iff]
      exact fun last ends => (word last (List.mem_of_getLast? ends)).1

/-- Neither the spaces nor the unit continue the digits. -/
theorem not_digit_of_mem {unit : List Char} (word : IsWord unit) (between after : Nat) :
    ∀ char ∈ List.replicate between ' ' ++ (unit ++ List.replicate after ' '),
      ¬ Text.isDecimalDigit char = true := by
  have space : Text.isDecimalDigit ' ' = false := by decide
  intro char present
  rw [List.mem_append, List.mem_append] at present
  rcases present with inBetween | inUnit | afterwards
  · simp [List.eq_of_mem_replicate inBetween, space]
  · simp [(word char inUnit).2]
  · simp [List.eq_of_mem_replicate afterwards, space]

theorem ofText?_of_written {text : String} {digits unit : List Char}
    (written : Written text digits unit) (nonempty : digits ≠ [])
    (digital : ∀ digit ∈ digits, Text.isDecimalDigit digit = true) (word : IsWord unit) :
    Expression.ofText? text = some ⟨digits, unit⟩ := by
  obtain ⟨before, between, after, layout⟩ := written
  have others := not_digit_of_mem word between after
  have start : text.toList.dropWhile isSpace =
      digits ++ (List.replicate between ' ' ++ (unit ++ List.replicate after ' ')) := by
    obtain ⟨first, more, rfl⟩ := List.exists_cons_of_ne_nil nonempty
    have kept : ¬ isSpace first = true := by
      rw [isSpace_eq_true_iff]
      rintro rfl
      exact absurd (digital ' ' List.mem_cons_self) (by decide)
    simp only [layout, List.append_assoc]
    rw [List.dropWhile_append_of_pos (all_spaces_iff.mpr ⟨before, rfl⟩), List.cons_append,
      List.dropWhile_cons_of_neg kept]
  have taken : (text.toList.dropWhile isSpace).takeWhile Text.isDecimalDigit = digits := by
    rw [start, List.takeWhile_append_of_pos digital, List.takeWhile_eq_nil_iff.mpr, List.append_nil]
    exact fun inside => others _ (List.get_mem _ _)
  have left : (text.toList.dropWhile isSpace).dropWhile Text.isDecimalDigit =
      List.replicate between ' ' ++ (unit ++ List.replicate after ' ') := by
    rw [start, List.dropWhile_append_of_pos digital, List.dropWhile_eq_self_iff]
    exact fun inside => others _ (List.getElem_mem _)
  rw [Expression.ofText?, taken, left,
    List.dropWhile_append_of_pos (all_spaces_iff.mpr ⟨between, rfl⟩), dropTrailing_word word]
  simp [nonempty]

/-! ## Readers -/

section Reader

variable {υ α : Type}

/-- Read a quantity, given the known units and what a number of a unit amounts to. -/
def readWith (unit? : List Char → Option υ) (amount : υ → Nat → Except ReadError α)
    (text : String) : Except ReadError α :=
  match Expression.ofText? text with
  | none => .error (.malformed text)
  | some expression =>
    match unit? expression.unit with
    | none => .error (.malformed text)
    | some unit =>
      match Numeric.Decimal.read Numeric.Decimal.wordLimit expression.digits with
      | .error cause => .error (.digits text cause)
      | .ok number => amount unit number

/-- The text is written as a number of 64 bits and a unit of the table. -/
structure Legible (units : List (List Char × υ)) (text : String) (unit : υ) (number : Nat) :
    Prop where
  written : ∃ letters, (letters, unit) ∈ units ∧ Denotes text number letters
  fits : number < 2 ^ 64

/-- The known units are those of the table, all of which are words. -/
structure Knows (unit? : List Char → Option υ) (units : List (List Char × υ)) : Prop where
  known : ∀ letters unit, unit? letters = some unit ↔ (letters, unit) ∈ units
  words : ∀ entry ∈ units, IsWord entry.1

variable {unit? : List Char → Option υ} {units : List (List Char × υ)}
  {amount : υ → Nat → Except ReadError α} {text : String}

namespace Knows

variable (knows : Knows unit? units)

include knows

theorem readWith_of_legible {unit : υ} {number : Nat}
    (legible : Legible units text unit number) :
    readWith unit? amount text = amount unit number := by
  obtain ⟨⟨letters, listed, digits, written, nonempty, digital, same⟩, fits⟩ := legible
  have parts := ofText?_of_written written nonempty
    (fun digit present => Text.isDecimalDigit_of_isDigit digit (digital digit present))
    (knows.words (letters, unit) listed)
  have known := (knows.known letters unit).mpr listed
  have read := (Numeric.Decimal.read_word_eq_ok_iff digits).mpr ⟨digital, same, fits⟩
  simp only [readWith, parts, known, read]

/-- A text that is not legible is malformed, or its digits are no number of 64 bits. -/
theorem legible_or_refused (amount : υ → Nat → Except ReadError α) (text : String) :
    (∃ unit number, Legible units text unit number) ∨
      readWith unit? amount text = .error (.malformed text) ∨
      ∃ cause, readWith unit? amount text = .error (.digits text cause) := by
  cases parts : Expression.ofText? text with
  | none => exact Or.inr (Or.inl (by simp only [readWith, parts]))
  | some expression =>
      obtain ⟨written, nonempty, -⟩ := written_of_ofText? parts
      cases known : unit? expression.unit with
      | none => exact Or.inr (Or.inl (by simp only [readWith, parts, known]))
      | some unit =>
          have listed := (knows.known expression.unit unit).mp known
          cases read : Numeric.Decimal.read Numeric.Decimal.wordLimit expression.digits with
          | error cause =>
              exact Or.inr (Or.inr ⟨cause, by simp only [readWith, parts, known, read]⟩)
          | ok number =>
              obtain ⟨digital, same, fits⟩ := (Numeric.Decimal.read_word_eq_ok_iff _).mp read
              refine Or.inl ⟨unit, number, ⟨expression.unit, listed, ?_⟩, fits⟩
              exact ⟨expression.digits, written, nonempty, digital, same⟩

/-- A result other than these refusals is what a legible text amounts to. -/
theorem readWith_eq_iff {result : Except ReadError α}
    (formed : result ≠ .error (.malformed text))
    (numeral : ∀ cause, result ≠ .error (.digits text cause)) :
    readWith unit? amount text = result ↔
      ∃ unit number, Legible units text unit number ∧ amount unit number = result := by
  constructor
  · intro read
    rcases knows.legible_or_refused amount text with ⟨unit, number, legible⟩ | refused
    · exact ⟨unit, number, legible, (knows.readWith_of_legible legible).symm.trans read⟩
    · rcases refused with malformed | ⟨cause, failed⟩
      · exact absurd (read.symm.trans malformed) formed
      · exact absurd (read.symm.trans failed) (numeral cause)
  · rintro ⟨unit, number, legible, same⟩
    exact (knows.readWith_of_legible legible).trans same

end Knows

end Reader

end ReadThrough.Quantity
