import ReadThrough.Peer.Settings
import ReadThrough.Proofs.Text.Blank

/-!
# Normal addresses

The common form of an address is a part of it that neither starts with a blank
nor ends with a slash.  Blanks are dropped before slashes, once each, so the
common form ends in a blank if one stands in front of the slashes at the end.
Exactly then it is not its own common form.
-/

namespace ReadThrough.Peer

def EndsInBlank (address : String) : Prop :=
  address.toList.getLast?.any Text.isBlank = true

instance : DecidablePred EndsInBlank := fun address =>
  inferInstanceAs (Decidable (address.toList.getLast?.any Text.isBlank = true))

theorem endsInBlank_iff {address : String} :
    EndsInBlank address ↔
      ∃ last, address.toList.getLast? = some last ∧ Text.isBlank last = true := by
  rw [EndsInBlank, Option.any_eq_true]

/-- A blank stands in front of the slashes at the end, after something else. -/
def BlankBeforeSlashes (address : String) : Prop :=
  ∃ body blank count, Text.isBlank blank = true ∧
    Text.trimChars address.toList = body ++ blank :: List.replicate count '/'

theorem toList_normalizeAddress (address : String) :
    (normalizeAddress address).toList =
      Text.dropTrailing (· == '/') (Text.trimChars address.toList) := by
  rw [normalizeAddress, String.toList_ofList]

theorem isInfix_normalizeAddress (address : String) :
    (normalizeAddress address).toList <:+: address.toList := by
  rw [toList_normalizeAddress]
  exact (Text.isPrefix_dropTrailing _ _).isInfix.trans (Text.isInfix_trimChars _)

/-- An address that is not its own common form is longer. -/
theorem length_normalizeAddress_lt {address : String}
    (changed : normalizeAddress address ≠ address) :
    (normalizeAddress address).length < address.length := by
  have part := isInfix_normalizeAddress address
  refine Nat.lt_of_le_of_ne ?_ fun same => changed ?_
  · rw [← String.length_toList, ← String.length_toList]
    exact part.length_le
  · rw [← String.length_toList, ← String.length_toList] at same
    exact String.toList_inj.mp (part.eq_of_length same)

/-- What is its own common form is trimmed. -/
theorem normalizeAddress_eq_self_iff {address : String} :
    normalizeAddress address = address ↔
      Text.trimChars address.toList = address.toList ∧
        Text.dropTrailing (· == '/') address.toList = address.toList := by
  rw [← String.toList_inj, toList_normalizeAddress]
  constructor
  · intro same
    have trimmed : Text.trimChars address.toList = address.toList := by
      refine (Text.isInfix_trimChars address.toList).sublist.eq_of_length_le ?_
      have shorter := (Text.isPrefix_dropTrailing (· == '/') (Text.trimChars address.toList)).length_le
      rwa [same] at shorter
    exact ⟨trimmed, by rwa [trimmed] at same⟩
  · rintro ⟨trimmed, plain⟩
    rw [trimmed, plain]

/-- Only a blank at the end keeps a common form from being its own one. -/
theorem normalizeAddress_normalizeAddress_iff (address : String) :
    normalizeAddress (normalizeAddress address) = normalizeAddress address ↔
      ¬ EndsInBlank (normalizeAddress address) := by
  rw [normalizeAddress_eq_self_iff, endsInBlank_iff]
  constructor
  · rintro ⟨trimmed, -⟩ ⟨last, ends, blank⟩
    rw [← trimmed] at ends
    simp [Text.last_trimChars ends] at blank
  · intro sound
    have ending : ∀ last, (normalizeAddress address).toList.getLast? = some last →
        Text.isBlank last = false := by
      intro last ends
      by_contra blank
      exact sound ⟨last, ends, by simpa using blank⟩
    refine ⟨Text.trimChars_eq_self ?_ ending, ?_⟩
    · intro first starts
      rw [toList_normalizeAddress] at starts
      exact Text.head_trimChars (Text.head_of_dropTrailing starts)
    · rw [toList_normalizeAddress]
      exact List.rdropWhile_idempotent _ _

theorem endsInBlank_normalizeAddress_iff (address : String) :
    EndsInBlank (normalizeAddress address) ↔ BlankBeforeSlashes address := by
  rw [endsInBlank_iff, toList_normalizeAddress]
  constructor
  · rintro ⟨blank, ends, isBlank⟩
    obtain ⟨body, stripped⟩ := List.getLast?_eq_some_iff.mp ends
    obtain ⟨tail, whole, slashes⟩ :=
      Text.exists_dropTrailing_append (· == '/') (Text.trimChars address.toList)
    have run : tail = List.replicate tail.length '/' :=
      List.eq_replicate_of_mem fun char present => by simpa using slashes char present
    refine ⟨body, blank, tail.length, isBlank, ?_⟩
    rw [← run, ← whole, stripped, List.append_assoc, List.singleton_append]
  · rintro ⟨body, blank, count, isBlank, layout⟩
    have slashes : ∀ char ∈ List.replicate count '/', (char == '/') = true := by
      intro char present
      rw [List.eq_of_mem_replicate present]
      rfl
    have kept : ∀ last, (body ++ [blank]).getLast? = some last → (last == '/') = false := by
      intro last ends
      rw [List.getLast?_concat, Option.some.injEq] at ends
      rw [beq_eq_false_iff_ne]
      rintro rfl
      rw [ends] at isBlank
      exact absurd isBlank (by decide)
    refine ⟨blank, ?_, isBlank⟩
    rw [layout, List.append_cons, Text.dropTrailing_append slashes,
      Text.dropTrailing_eq_self_iff.mpr kept, List.getLast?_concat]

end ReadThrough.Peer
