import ReadThrough.Text.Percent
import ReadThrough.Proofs.Text.Utf8

/-!
# Reading what was percent-encoded

An encoded text consists of unreserved characters and of escapes, none of which
is a slash, and decoding it gives the text again.
-/

namespace ReadThrough.Percent

/-! ## Escapes -/

theorem hexValue?_hexDigit {value : UInt8} (small : value < 16) :
    hexValue? (hexDigit value) = some value := by
  rw [hexDigit]
  split
  · have digit : 0x30 ≤ 0x30 + value ∧ 0x30 + value ≤ 0x39 := by grind
    have same : 0x30 + value - 0x30 = value := by grind
    simp [hexValue?, digit, same]
  · have letter : 0x41 ≤ 0x37 + value ∧ 0x37 + value ≤ 0x46 := by grind
    have above : ¬ 0x37 + value ≤ 0x39 := by grind
    have same : 0x37 + value - 0x37 = value := by grind
    simp [hexValue?, letter, above, same]

theorem escaped?_hexDigit (byte : UInt8) :
    escaped? (hexDigit (byte / 16)) (hexDigit (byte % 16)) = some byte := by
  have high : byte / 16 < 16 := by grind
  have low : byte % 16 < 16 := by grind
  have same : byte / 16 * 16 + byte % 16 = byte := by grind
  rw [escaped?, hexValue?_hexDigit high, hexValue?_hexDigit low]
  simp [same]

theorem decodeBytes_cons {byte : UInt8} (plain : byte ≠ 0x25) (rest : Bytes) :
    decodeBytes (byte :: rest) = byte :: decodeBytes rest := by
  match rest with
  | [] => rfl
  | [_] => rfl
  | _ :: _ :: _ => rw [decodeBytes, if_neg plain]

/-- An encoded byte is read as this byte, whatever follows it. -/
theorem decodeBytes_encodeByte (byte : UInt8) (rest : Bytes) :
    decodeBytes (encodeByte byte ++ rest) = byte :: decodeBytes rest := by
  rw [encodeByte]
  split
  · rename_i unreserved
    have plain : byte ≠ 0x25 := by
      rintro rfl
      exact absurd unreserved (by decide)
    exact decodeBytes_cons plain rest
  · rw [List.cons_append, List.cons_append, List.cons_append, List.nil_append, decodeBytes,
      if_pos rfl, escaped?_hexDigit]

theorem decodeBytes_encodeBytes (bytes : Bytes) : decodeBytes (encodeBytes bytes) = bytes := by
  rw [encodeBytes]
  induction bytes with
  | nil => rfl
  | cons byte rest ih => rw [List.flatMap_cons, decodeBytes_encodeByte, ih]

/-! ## Encoded characters -/

theorem isUnreserved_hexDigit {value : UInt8} (small : value < 16) :
    isUnreserved (hexDigit value) = true := by
  rw [hexDigit]
  split
  · have digit : 0x30 ≤ 0x30 + value ∧ 0x30 + value ≤ 0x39 := by grind
    simp [isUnreserved, digit]
  · have letter : 0x41 ≤ 0x37 + value ∧ 0x37 + value ≤ 0x5A := by grind
    simp [isUnreserved, letter]

/-- Only unreserved bytes and percent signs are written. -/
theorem written_of_mem_encodeBytes {bytes : Bytes} {byte : UInt8}
    (present : byte ∈ encodeBytes bytes) : isUnreserved byte = true ∨ byte = 0x25 := by
  obtain ⟨original, -, written⟩ := List.mem_flatMap.mp present
  rw [encodeByte] at written
  split at written
  · rename_i unreserved
    exact Or.inl (List.mem_singleton.mp written ▸ unreserved)
  · have high : original / 16 < 16 := by grind
    have low : original % 16 < 16 := by grind
    rcases List.mem_cons.mp written with percent | digits
    · exact Or.inr percent
    · rcases List.mem_cons.mp digits with first | second
      · exact Or.inl (first ▸ isUnreserved_hexDigit high)
      · exact Or.inl (List.mem_singleton.mp second ▸ isUnreserved_hexDigit low)

theorem ascii_of_isUnreserved {byte : UInt8} (unreserved : isUnreserved byte = true) :
    byte < 0x80 ∧ byte ≠ 0x2F := by
  simp only [isUnreserved, Bool.or_eq_true, Bool.and_eq_true, decide_eq_true_eq,
    beq_iff_eq] at unreserved
  grind

/-- What is written consists of ASCII characters other than the slash. -/
theorem ascii_of_mem_encodeBytes {bytes : Bytes} {byte : UInt8}
    (present : byte ∈ encodeBytes bytes) : byte < 0x80 ∧ byte ≠ 0x2F := by
  rcases written_of_mem_encodeBytes present with unreserved | rfl
  · exact ascii_of_isUnreserved unreserved
  · decide

theorem toNat_ofNat_byte (byte : UInt8) : (Char.ofNat byte.toNat).toNat = byte.toNat := by
  have valid : byte.toNat.isValidChar := Or.inl (Nat.lt_trans byte.toNat_lt (by decide))
  rw [Char.ofNat, dif_pos valid]
  rfl

/-- No character of an encoded text is a slash. -/
theorem slash_not_mem_encode (text : String) : '/' ∉ (encode text).toList := by
  rw [encode, String.toList_ofList, List.mem_map]
  rintro ⟨byte, present, slash⟩
  have code : byte.toNat = (0x2F : UInt8).toNat := by
    rw [← toNat_ofNat_byte, slash]
    rfl
  exact (ascii_of_mem_encodeBytes present).2 (UInt8.toNat_inj.mp code)

/-! ## Encoded texts -/

/-- Characters with the codes of ASCII bytes are written as these bytes. -/
theorem encode_ofList_ascii {bytes : Bytes} (ascii : ∀ byte ∈ bytes, byte < 0x80) :
    Utf8.encode (String.ofList (bytes.map fun byte => Char.ofNat byte.toNat)) = bytes := by
  rw [Utf8.encode, String.toList_ofList]
  induction bytes with
  | nil => rfl
  | cons byte rest ih =>
      have small : byte.toNat ≤ 127 :=
        Nat.le_of_lt_succ (UInt8.lt_iff_toNat_lt.mp (ascii byte List.mem_cons_self))
      have code : (Char.ofNat byte.toNat).val.toNat = byte.toNat := toNat_ofNat_byte byte
      have single : String.utf8EncodeChar (Char.ofNat byte.toNat) = [byte] := by
        simp only [String.utf8EncodeChar, code, small, if_true, UInt8.ofNat_toNat]
      rw [List.map_cons, List.flatMap_cons, single,
        ih fun other present => ascii other (List.mem_cons_of_mem _ present)]
      rfl

/-- Decoding an encoded text gives the text. -/
@[simp]
theorem decode?_encode (text : String) : decode? (encode text) = some text := by
  have ascii : ∀ byte ∈ encodeBytes (Utf8.encode text), byte < 0x80 := fun byte present =>
    (ascii_of_mem_encodeBytes present).1
  rw [decode?, encode, encode_ofList_ascii ascii, decodeBytes_encodeBytes, Utf8.decode?_encode]

end ReadThrough.Percent
