import ReadThrough.Http.Path
import ReadThrough.Http.Uri
import ReadThrough.Proofs.Text.Percent

/-!
# The path of a URL

The path of a URL is what follows its authority, up to a question mark or a
number sign.  A target that is read has this path, and a path is read as it was
written exactly if each of its characters may stand in a path.  The paths of
keys consist of such characters.
-/

namespace ReadThrough.Http

namespace Uri

def endsPath (char : Char) : Bool := char == '?' || char == '#'

def pathIn? (url : String) : Option String :=
  (splitScheme? url.toList).map fun (_, rest) =>
    String.ofList ((rest.dropWhile fun char => !endsAuthority char).takeWhile fun char =>
      !endsPath char)

/-- An address is a scheme and an authority. -/
structure IsOrigin (address scheme authority : String) : Prop where
  written : address = scheme ++ "://" ++ authority
  schemeChars : ∀ char ∈ scheme.toList, isSchemeChar char = true ∧ char ≠ ':'
  authorityChars : ∀ char ∈ authority.toList, endsAuthority char = false

instance (address scheme authority : String) : Decidable (IsOrigin address scheme authority) :=
  decidable_of_iff
    (address = scheme ++ "://" ++ authority ∧
      scheme.toList.all (fun char => isSchemeChar char && char != ':') = true ∧
      authority.toList.all (fun char => !endsAuthority char) = true)
    ⟨fun ⟨written, schemeChars, authorityChars⟩ =>
      ⟨written, by simpa using schemeChars, by simpa using authorityChars⟩,
    fun ⟨written, schemeChars, authorityChars⟩ =>
      ⟨written, by simpa using schemeChars, by simpa using authorityChars⟩⟩

/-! ## Characters of a path -/

theorem endsPath_of_isPathChar {char : Char} (allowed : isPathChar char = true) :
    endsPath char = false := by
  rw [endsPath, Bool.or_eq_false_iff, beq_eq_false_iff_ne, beq_eq_false_iff_ne]
  constructor <;>
    · rintro rfl
      revert allowed
      decide

/-- A path is read up to the first character that may not stand in it, which has to end it. -/
theorem parts_of_pathAndQuery? {chars : List Char} {path : String} {query : Option String}
    (read : pathAndQuery? chars = some (path, query)) :
    path = String.ofList (chars.takeWhile isPathChar) ∧
      (chars.dropWhile isPathChar).takeWhile (fun char => !endsPath char) = [] := by
  rw [pathAndQuery?] at read
  split at read
  next stop =>
    cases read
    exact ⟨rfl, by rw [stop, List.takeWhile_nil]⟩
  next stop =>
    cases read
    exact ⟨rfl, by rw [stop]; rfl⟩
  next rest stop =>
    have ends : (chars.dropWhile isPathChar).takeWhile (fun char => !endsPath char) = [] := by
      rw [stop]
      rfl
    dsimp only at read
    split at read
    next =>
      cases read
      exact ⟨rfl, ends⟩
    next =>
      cases read
      exact ⟨rfl, ends⟩
    next => cases read
  next => cases read

/-- What is read as a path ends before the first question mark or number sign. -/
theorem path_of_pathAndQuery? {chars : List Char} {path : String} {query : Option String}
    (read : pathAndQuery? chars = some (path, query)) :
    path = String.ofList (chars.takeWhile fun char => !endsPath char) := by
  obtain ⟨written, stop⟩ := parts_of_pathAndQuery? read
  have allowed : ∀ char ∈ chars.takeWhile isPathChar, (!endsPath char) = true := by
    intro char present
    rw [endsPath_of_isPathChar (List.mem_takeWhile_imp present)]
    rfl
  have cut : (chars.takeWhile isPathChar ++ chars.dropWhile isPathChar).takeWhile
      (fun char => !endsPath char) = chars.takeWhile isPathChar := by
    rw [List.takeWhile_append_of_pos allowed, stop, List.append_nil]
  rw [List.takeWhile_append_dropWhile] at cut
  rw [written, cut]

/-- A path is read as it was written exactly if its characters may stand in a path. -/
theorem pathAndQuery?_eq_iff {chars : List Char} :
    pathAndQuery? chars = some (String.ofList chars, none) ↔
      ∀ char ∈ chars, isPathChar char = true := by
  rw [← List.takeWhile_eq_self_iff]
  constructor
  · intro read
    exact (String.ofList_injective (parts_of_pathAndQuery? read).1).symm
  · intro whole
    have nothing : chars.dropWhile isPathChar = [] :=
      List.dropWhile_eq_nil_iff.mpr (List.takeWhile_eq_self_iff.mp whole)
    rw [pathAndQuery?, nothing, whole]

/-! ## The characters of the path of a key -/

theorem isPathChar_of_mem_encode {text : String} {char : Char}
    (present : char ∈ (Percent.encode text).toList) : isPathChar char = true := by
  rw [Percent.encode, String.toList_ofList, List.mem_map] at present
  obtain ⟨byte, written, rfl⟩ := present
  rcases Percent.written_of_mem_encodeBytes written with unreserved | rfl
  · rw [isPathChar, Percent.toNat_ofNat_byte]
    simp only [Percent.isUnreserved, Bool.or_eq_true, Bool.and_eq_true, decide_eq_true_eq,
      beq_iff_eq, UInt8.le_iff_toNat_le, ← UInt8.toNat_inj, UInt8.toNat_ofNat] at unreserved ⊢
    omega
  · decide

theorem isPathChar_of_mem_path {target : Target} {char : Char}
    (present : char ∈ target.path.toList) : isPathChar char = true := by
  rw [Target.path, String.toList_append, String.toList_append, List.mem_append,
    List.mem_append] at present
  rcases present with (group | slash) | key
  · exact isPathChar_of_mem_encode group
  · rw [List.mem_singleton.mp slash]
    decide
  · exact isPathChar_of_mem_encode key

/-! ## Targets with a path -/

/-- A path alone is a target, if its characters may stand in a path and it is not too long. -/
theorem parse?_path {path : String} (starts : path.toList.head? = some '/')
    (allowed : ∀ char ∈ path.toList, isPathChar char = true)
    (short : path.utf8ByteSize ≤ byteLimit) : parse? path = some ⟨"", "", path, none⟩ := by
  obtain ⟨rest, written⟩ := List.head?_eq_some_iff.mp starts
  rw [written] at allowed
  have read := pathAndQuery?_eq_iff.mpr allowed
  have same : String.ofList ('/' :: rest) = path := by rw [← written, String.ofList_toList]
  rw [parse?, if_neg (Nat.not_lt.mpr short), written]
  simp only [read, same]
  rfl

namespace IsOrigin

variable {address scheme authority : String} (origin : IsOrigin address scheme authority)

include origin

theorem toList_append (path : String) :
    (address ++ path).toList =
      scheme.toList ++ ':' :: '/' :: '/' :: (authority.toList ++ path.toList) := by
  simp [origin.written]

/-- A URL below an address begins with the scheme of the address. -/
theorem splitScheme?_append (path : String) :
    splitScheme? (address ++ path).toList =
      some (scheme.toList, authority.toList ++ path.toList) := by
  have plain : ∀ char ∈ scheme.toList, (isSchemeChar char && char != ':') = true := by
    simpa using origin.schemeChars
  have taken : (address ++ path).toList.takeWhile (fun char => isSchemeChar char && char != ':') =
      scheme.toList := by
    rw [origin.toList_append, List.takeWhile_append_of_pos plain,
      List.takeWhile_cons_of_neg (by decide), List.append_nil]
  rw [splitScheme?, taken, origin.toList_append, List.drop_left]
  rfl

/-- What follows the authority begins with the path. -/
theorem authority_append {path : List Char} (starts : path.head? = some '/') :
    (authority.toList ++ path).takeWhile (fun char => !endsAuthority char) = authority.toList ∧
    (authority.toList ++ path).dropWhile (fun char => !endsAuthority char) = path := by
  obtain ⟨rest, rfl⟩ := List.head?_eq_some_iff.mp starts
  have plain : ∀ char ∈ authority.toList, (!endsAuthority char) = true := by
    simpa using origin.authorityChars
  constructor
  · rw [List.takeWhile_append_of_pos plain, List.takeWhile_cons_of_neg (by decide),
      List.append_nil]
  · rw [List.dropWhile_append_of_pos plain, List.dropWhile_cons_of_neg (by decide)]

/-- The path of a URL below an address is what follows the address, up to the end of a path. -/
theorem pathIn?_append {path : String} (starts : path.toList.head? = some '/') :
    pathIn? (address ++ path) =
      some (String.ofList (path.toList.takeWhile fun char => !endsPath char)) := by
  rw [pathIn?, origin.splitScheme?_append, Option.map_some]
  simp only [(origin.authority_append starts).2]

/-- A URL below an address is none of the targets without a scheme. -/
theorem parse?_eq_absolute? (path : String)
    (short : (address ++ path).utf8ByteSize ≤ byteLimit) :
    parse? (address ++ path) =
      if schemeLimit < scheme.toList.length then none
      else absolute? scheme.toList (authority.toList ++ path.toList) := by
  have chars := origin.toList_append path
  rw [parse?, if_neg (Nat.not_lt.mpr short)]
  split
  next empty => simp [chars] at empty
  next asterisk =>
    have length := congrArg List.length asterisk
    simp [chars] at length
    omega
  next rest slash =>
    rw [chars] at slash
    cases written : scheme.toList with
    | nil => simp [written] at slash
    | cons char others =>
        have plain := (origin.schemeChars char (by simp [written])).1
        simp only [written, List.cons_append, List.cons.injEq] at slash
        rw [slash.1] at plain
        exact absurd plain (by decide)
  next => rw [origin.splitScheme?_append path]

/-- A URL below an address is read by its parts. -/
theorem absolute?_append {path : List Char} (starts : path.head? = some '/') :
    absolute? scheme.toList (authority.toList ++ path) =
      if authority = "" ∨ isAuthority authority.toList = false then none
      else (pathAndQuery? path).map fun (path, query) => ⟨scheme, authority, path, query⟩ := by
  have refused : (authority.toList.isEmpty || !isAuthority authority.toList) = true ↔
      authority = "" ∨ isAuthority authority.toList = false := by
    simp
  simp only [absolute?, (origin.authority_append starts).1, List.drop_left, refused,
    String.ofList_toList]
  cases pathAndQuery? path <;> rfl

/-- What is read as a URL below an address has the path of this URL. -/
theorem path_of_parse? {path : String} (starts : path.toList.head? = some '/') {uri : Uri}
    (parsed : parse? (address ++ path) = some uri) :
    pathIn? (address ++ path) = some uri.path := by
  have short : (address ++ path).utf8ByteSize ≤ byteLimit := by
    by_contra long
    rw [parse?, if_pos (Nat.not_le.mp long)] at parsed
    cases parsed
  rw [origin.parse?_eq_absolute? path short, origin.absolute?_append starts] at parsed
  split at parsed
  next => cases parsed
  next =>
    split at parsed
    next => cases parsed
    next =>
      obtain ⟨⟨written, query⟩, read, rfl⟩ := Option.map_eq_some_iff.mp parsed
      rw [origin.pathIn?_append starts, path_of_pathAndQuery? read]

/--
A URL below an address is read as it was written exactly if the address can be
read, the characters behind it may stand in a path, and the URL is not too long.
-/
theorem parse?_append_eq_iff {path : String} (starts : path.toList.head? = some '/') :
    parse? (address ++ path) = some ⟨scheme, authority, path, none⟩ ↔
      scheme.toList.length ≤ schemeLimit ∧ authority ≠ "" ∧
        isAuthority authority.toList = true ∧ (∀ char ∈ path.toList, isPathChar char = true) ∧
        (address ++ path).utf8ByteSize ≤ byteLimit := by
  rw [← pathAndQuery?_eq_iff, String.ofList_toList]
  by_cases short : (address ++ path).utf8ByteSize ≤ byteLimit
  · rw [origin.parse?_eq_absolute? path short, origin.absolute?_append starts]
    split
    next long =>
      exact iff_of_false nofun fun ⟨brief, _⟩ => Nat.not_le.mpr long brief
    next brief =>
      split
      next refused =>
        refine iff_of_false nofun fun ⟨_, named, valid, _⟩ => ?_
        rcases refused with unnamed | invalid
        · exact named unnamed
        · exact absurd valid (by simp [invalid])
      next served =>
        simp only [not_or, Bool.not_eq_false] at served
        have whole :
            (pathAndQuery? path.toList).map (fun (path, query) =>
              (⟨scheme, authority, path, query⟩ : Uri)) = some ⟨scheme, authority, path, none⟩ ↔
              pathAndQuery? path.toList = some (path, none) := by
          simp [Option.map_eq_some_iff]
        rw [whole]
        exact ⟨fun read => ⟨Nat.not_lt.mp brief, served.1, served.2, read, short⟩,
          fun ⟨_, _, _, read, _⟩ => read⟩
  · rw [parse?, if_pos (Nat.not_le.mp short)]
    exact iff_of_false nofun fun ⟨_, _, _, _, fits⟩ => short fits

end IsOrigin

end Uri

end ReadThrough.Http
