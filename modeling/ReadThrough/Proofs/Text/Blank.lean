import Mathlib.Data.List.DropRight
import ReadThrough.Text.Blank

/-!
# Texts without their ends

What is dropped at the end of a text is the longest run of dropped characters
there.  A trimmed text is a part of the text, neither starts nor ends with a
blank, and is the whole text if this is so of the text itself.
-/

namespace ReadThrough.Text

/-! ## The end of a text -/

section DropTrailing

variable {dropped : Char → Bool} {chars : List Char}

theorem dropTrailing_eq_rdropWhile (dropped : Char → Bool) (chars : List Char) :
    dropTrailing dropped chars = chars.rdropWhile dropped := rfl

theorem exists_dropTrailing_append (dropped : Char → Bool) (chars : List Char) :
    ∃ tail, dropTrailing dropped chars ++ tail = chars ∧ ∀ char ∈ tail, dropped char = true :=
  ⟨chars.rtakeWhile dropped, List.rdropWhile_append_rtakeWhile,
    fun _ => List.mem_rtakeWhile_imp⟩

theorem dropTrailing_append {tail : List Char} (all : ∀ char ∈ tail, dropped char = true) :
    dropTrailing dropped (chars ++ tail) = dropTrailing dropped chars := by
  have allReversed : ∀ char ∈ tail.reverse, dropped char = true :=
    fun char present => all char (List.mem_reverse.mp present)
  rw [dropTrailing, List.reverse_append, List.dropWhile_append_of_pos allReversed, dropTrailing]

theorem isPrefix_dropTrailing (dropped : Char → Bool) (chars : List Char) :
    dropTrailing dropped chars <+: chars :=
  List.rdropWhile_prefix dropped chars

theorem head_of_dropTrailing {first : Char}
    (starts : (dropTrailing dropped chars).head? = some first) : chars.head? = some first := by
  obtain ⟨tail, whole⟩ := isPrefix_dropTrailing dropped chars
  rw [← whole, List.head?_append, starts]
  rfl

/-- Nothing is dropped exactly if the last character is not. -/
theorem dropTrailing_eq_self_iff :
    dropTrailing dropped chars = chars ↔
      ∀ last, chars.getLast? = some last → dropped last = false := by
  rw [dropTrailing_eq_rdropWhile, List.rdropWhile_eq_self_iff]
  constructor
  · intro kept last ends
    obtain ⟨nonempty, rfl⟩ := List.mem_getLast?_eq_getLast ends
    simpa using kept nonempty
  · intro kept nonempty
    simp [kept _ (List.getLast?_eq_some_getLast nonempty)]

theorem last_dropTrailing {last : Char} (ends : (dropTrailing dropped chars).getLast? = some last) :
    dropped last = false :=
  dropTrailing_eq_self_iff.mp (List.rdropWhile_idempotent dropped chars) last ends

end DropTrailing

/-! ## Both ends -/

section Trim

variable {chars : List Char}

theorem isInfix_trimChars (chars : List Char) : trimChars chars <:+: chars :=
  (isPrefix_dropTrailing _ _).isInfix.trans (List.dropWhile_suffix _).isInfix

theorem head_trimChars {first : Char} (starts : (trimChars chars).head? = some first) :
    isBlank first = false := by
  have kept := List.head?_dropWhile_not isBlank chars
  rwa [head_of_dropTrailing starts] at kept

theorem last_trimChars {last : Char} (ends : (trimChars chars).getLast? = some last) :
    isBlank last = false :=
  last_dropTrailing ends

/-- Nothing is trimmed if there are no blanks at the ends. -/
theorem trimChars_eq_self (start : ∀ first, chars.head? = some first → isBlank first = false)
    (ending : ∀ last, chars.getLast? = some last → isBlank last = false) :
    trimChars chars = chars := by
  have startKept : chars.dropWhile isBlank = chars := by
    cases chars with
    | nil => rfl
    | cons first rest => exact List.dropWhile_cons_of_neg (by simp [start first rfl])
  rw [trimChars, startKept]
  exact dropTrailing_eq_self_iff.mpr ending

end Trim

end ReadThrough.Text
