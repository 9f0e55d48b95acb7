import Mathlib.Data.List.TakeWhile
import ReadThrough.Text.Utf8

/-!
# Reading what was written

The bytes of a text are valid, and reading them gives the text again.  A
character has up to four bytes; a lead byte tells how many continuations it
calls for, and six bits of the code point stand in each of them.
-/

namespace ReadThrough.Utf8

/-! ## Bytes of numbers -/

theorem toNat_byte {value other : Nat} (same : value = other) (small : other < 256) :
    (UInt8.ofNat value).toNat = other := by
  rw [same, UInt8.toNat_ofNat', Nat.mod_eq_of_lt small]

theorem isContinuation_iff {byte : UInt8} :
    isContinuation byte = true ↔ 0x80 ≤ byte.toNat ∧ byte.toNat ≤ 0xBF := by
  simp [isContinuation, UInt8.le_iff_toNat_le]

section Lead

variable {lead : UInt8}

theorem width_of_one (low : lead.toNat < 0x80) : width lead = 1 := by
  simp [width, UInt8.lt_iff_toNat_lt, low]

theorem width_of_two (low : 0xC2 ≤ lead.toNat) (high : lead.toNat < 0xE0) : width lead = 2 := by
  have above : ¬ lead.toNat < 0x80 := by omega
  simp [width, UInt8.lt_iff_toNat_lt, above, Nat.not_lt.mpr low, high]

theorem width_of_three (low : 0xE0 ≤ lead.toNat) (high : lead.toNat < 0xF0) : width lead = 3 := by
  have above : ¬ lead.toNat < 0x80 ∧ ¬ lead.toNat < 0xC2 := by omega
  simp [width, UInt8.lt_iff_toNat_lt, above, Nat.not_lt.mpr low, high]

theorem width_of_four (low : 0xF0 ≤ lead.toNat) (high : lead.toNat < 0xF5) : width lead = 4 := by
  have above : ¬ lead.toNat < 0x80 ∧ ¬ lead.toNat < 0xC2 ∧ ¬ lead.toNat < 0xE0 := by omega
  simp [width, UInt8.lt_iff_toNat_lt, above, Nat.not_lt.mpr low, high]

/-- A continuation may follow a lead, unless the lead is one of four that restrict it further. -/
theorem isSecond_of_bounds {second : UInt8} (continues : isContinuation second = true)
    (long : lead.toNat = 0xE0 → 0xA0 ≤ second.toNat)
    (scalar : lead.toNat = 0xED → second.toNat ≤ 0x9F)
    (longer : lead.toNat = 0xF0 → 0x90 ≤ second.toNat)
    (limited : lead.toNat = 0xF4 → second.toNat ≤ 0x8F) : isSecond lead second = true := by
  obtain ⟨low, high⟩ := isContinuation_iff.mp continues
  simp only [isSecond, beq_iff_eq, ← UInt8.toNat_inj]
  split
  · simpa [UInt8.le_iff_toNat_le, high] using long ‹_›
  · split
    · simpa [UInt8.le_iff_toNat_le, low] using scalar ‹_›
    · split
      · simpa [UInt8.le_iff_toNat_le, high] using longer ‹_›
      · split
        · simpa [UInt8.le_iff_toNat_le, low] using limited ‹_›
        · exact continues

/-- A lead is read together with as many continuations as it calls for. -/
theorem readChar_of_width {second : UInt8} {char : Char} (tail rest : Bytes)
    (wide : width lead = tail.length + 2) (fits : isSecond lead second = true)
    (continues : ∀ byte ∈ tail, isContinuation byte = true)
    (joined : codePoint lead (second :: tail) = char.toNat) :
    readChar lead (second :: (tail ++ rest)) = (some char, tail.length + 1) := by
  have owed : continuations tail.length (tail ++ rest) = tail := by
    rw [continuations, List.take_left, List.takeWhile_eq_self_iff.mpr continues]
  simp only [readChar, wide, fits, if_true, owed, joined, Char.ofNat_toNat]

end Lead

/-! ## Characters -/

section Characters

variable {char : Char} {lead second third fourth : UInt8} (rest : Bytes)

theorem readChar_one (high : char.toNat < 0x80) (only : lead.toNat = char.toNat) :
    readChar lead rest = (some char, 0) := by
  have wide : width lead = 1 := width_of_one (by omega)
  simp [readChar, wide, only]

theorem readChar_two (low : 0x80 ≤ char.toNat) (high : char.toNat < 0x800)
    (first : lead.toNat = char.toNat / 64 + 192) (last : second.toNat = char.toNat % 64 + 128) :
    readChar lead (second :: rest) = (some char, 1) := by
  have wide : width lead = 2 := width_of_two (by omega) (by omega)
  have continues : isContinuation second = true := isContinuation_iff.mpr (by omega)
  have fits : isSecond lead second = true :=
    isSecond_of_bounds continues (by omega) (by omega) (by omega) (by omega)
  have joined : codePoint lead [second] = char.toNat := by
    simp only [codePoint, List.length_cons, List.length_nil, List.foldl_cons, List.foldl_nil]
    omega
  exact readChar_of_width [] rest wide fits (by simp) joined

theorem readChar_three (low : 0x800 ≤ char.toNat) (high : char.toNat < 0x10000)
    (first : lead.toNat = char.toNat / 4096 + 224)
    (next : second.toNat = char.toNat / 64 % 64 + 128)
    (last : third.toNat = char.toNat % 64 + 128) :
    readChar lead (second :: third :: rest) = (some char, 2) := by
  have scalar : char.toNat < 0xD800 ∨ 0xDFFF < char.toNat ∧ char.toNat < 0x110000 := char.valid
  have wide : width lead = 3 := width_of_three (by omega) (by omega)
  have continues : isContinuation second = true := isContinuation_iff.mpr (by omega)
  have fits : isSecond lead second = true :=
    isSecond_of_bounds continues (by omega) (by omega) (by omega) (by omega)
  have joined : codePoint lead [second, third] = char.toNat := by
    simp only [codePoint, List.length_cons, List.length_nil, List.foldl_cons, List.foldl_nil]
    omega
  refine readChar_of_width [third] rest wide fits ?_ joined
  simpa using isContinuation_iff.mpr (by omega)

theorem readChar_four (low : 0x10000 ≤ char.toNat) (first : lead.toNat = char.toNat / 262144 + 240)
    (next : second.toNat = char.toNat / 4096 % 64 + 128)
    (other : third.toNat = char.toNat / 64 % 64 + 128)
    (last : fourth.toNat = char.toNat % 64 + 128) :
    readChar lead (second :: third :: fourth :: rest) = (some char, 3) := by
  have scalar : char.toNat < 0xD800 ∨ 0xDFFF < char.toNat ∧ char.toNat < 0x110000 := char.valid
  have wide : width lead = 4 := width_of_four (by omega) (by omega)
  have continues : isContinuation second = true := isContinuation_iff.mpr (by omega)
  have fits : isSecond lead second = true :=
    isSecond_of_bounds continues (by omega) (by omega) (by omega) (by omega)
  have joined : codePoint lead [second, third, fourth] = char.toNat := by
    simp only [codePoint, List.length_cons, List.length_nil, List.foldl_cons, List.foldl_nil]
    omega
  refine readChar_of_width [third, fourth] rest wide fits ?_ joined
  simpa using ⟨isContinuation_iff.mpr (by omega), isContinuation_iff.mpr (by omega)⟩

end Characters

/-- If the first byte is read together with the next ones, the rest is read on its own. -/
theorem chars_of_readChar {char : Char} {lead : UInt8} (tail : Bytes) {rest : Bytes}
    (read : readChar lead (tail ++ rest) = (some char, tail.length)) :
    chars (lead :: (tail ++ rest)) = some char :: chars rest := by
  have split : chars (lead :: (tail ++ rest)) = (readChar lead (tail ++ rest)).1 ::
      chars ((tail ++ rest).drop (readChar lead (tail ++ rest)).2) := by
    rw [chars]
  rw [split, read, List.drop_left]

/-- The bytes of a character are read as this character, whatever follows them. -/
theorem chars_encodeChar (char : Char) (rest : Bytes) :
    chars (String.utf8EncodeChar char ++ rest) = some char :: chars rest := by
  have scalar : char.toNat < 0xD800 ∨ 0xDFFF < char.toNat ∧ char.toNat < 0x110000 := char.valid
  have same : char.val.toNat = char.toNat := rfl
  simp only [String.utf8EncodeChar, same]
  -- The cases are those of the number of bytes.
  split
  · refine chars_of_readChar [] (readChar_one rest (by omega) ?_)
    exact toNat_byte rfl (by omega)
  · split
    · refine chars_of_readChar [_] (readChar_two rest (by omega) (by omega) ?_ ?_)
      all_goals exact toNat_byte (by omega) (by omega)
    · split
      · refine chars_of_readChar [_, _]
          (readChar_three rest (by omega) (by omega) ?_ ?_ ?_)
        all_goals exact toNat_byte (by omega) (by omega)
      · refine chars_of_readChar [_, _, _] (readChar_four rest (by omega) ?_ ?_ ?_ ?_)
        all_goals exact toNat_byte (by omega) (by omega)

/-- What is written is read. -/
theorem chars_encode (text : String) : chars (encode text) = text.toList.map some := by
  rw [encode]
  induction text.toList with
  | nil => rw [List.flatMap_nil, chars, List.map_nil]
  | cons char rest ih => rw [List.flatMap_cons, chars_encodeChar, ih, List.map_cons]

/-- The bytes of a text are valid and stand for this text. -/
@[simp]
theorem decode?_encode (text : String) : decode? (encode text) = some text := by
  rw [decode?, chars_encode, List.mapM_map]
  have present : text.toList.mapM (id ∘ some) = some (text.toList.map id) :=
    List.mapM_pure
  rw [present, List.map_id, Option.map_some, String.ofList_toList]

@[simp]
theorem decodeLossy_encode (text : String) : decodeLossy (encode text) = text := by
  rw [decodeLossy, chars_encode, List.map_map]
  exact (congrArg String.ofList (List.map_id _)).trans String.ofList_toList

end ReadThrough.Utf8
