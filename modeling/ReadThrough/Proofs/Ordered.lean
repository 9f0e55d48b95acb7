import ReadThrough.Ordered

/-!
# Lookups in ascending maps

Setting a key changes what is found under this key and nothing else, whatever
the order of the list.  In an ascending list every entry is also found, so two
ascending lists in which the same is found are equal.  A set as an ascending
list is likewise told by its elements.  The search in an ascending array divides
it into what is below an element and what is not.
-/

namespace ReadThrough.Ordered

section Lookup

variable {κ α : Type} [DecidableEq κ]

@[simp]
theorem get?_nil (key : κ) : get? key ([] : List (κ × α)) = none := rfl

theorem get?_cons (key other : κ) (value : α) (rest : List (κ × α)) :
    get? key ((other, value) :: rest) = if other = key then some value else get? key rest := by
  by_cases same : other = key <;> simp [get?, same]

theorem mem_keys_iff {key : κ} {map : List (κ × α)} :
    key ∈ map.map Prod.fst ↔ ∃ value, get? key map = some value := by
  rw [← Option.isSome_iff_exists, get?, Option.isSome_map, List.find?_isSome]
  simp

theorem mem_of_get? {key : κ} {value : α} {map : List (κ × α)}
    (found : get? key map = some value) : (key, value) ∈ map := by
  obtain ⟨⟨other, stored⟩, hfind, rfl⟩ := Option.map_eq_some_iff.mp found
  have same : other = key := by simpa using List.find?_some hfind
  exact same ▸ List.mem_of_find?_eq_some hfind

/-- If no key occurs twice, the entries are what is found. -/
theorem mem_iff_get? {map : List (κ × α)} (distinct : (map.map Prod.fst).Nodup) {key : κ}
    {value : α} : (key, value) ∈ map ↔ get? key map = some value := by
  refine ⟨fun present => ?_, mem_of_get?⟩
  induction map with
  | nil => cases present
  | cons entry rest ih =>
      obtain ⟨first, stored⟩ := entry
      obtain ⟨absent, distinctRest⟩ := List.nodup_cons.mp distinct
      rw [get?_cons]
      rcases List.mem_cons.mp present with same | later
      · obtain ⟨rfl, rfl⟩ := Prod.mk.inj same
        rw [if_pos rfl]
      · have different : first ≠ key := by
          rintro rfl
          exact absent (List.mem_map.mpr ⟨_, later, rfl⟩)
        rw [if_neg different, ih distinctRest later]

theorem mem_values_iff {map : List (κ × α)} (distinct : (map.map Prod.fst).Nodup) {value : α} :
    value ∈ map.map Prod.snd ↔ ∃ key, get? key map = some value := by
  simp [← mem_iff_get? distinct]

/-- Removing a key removes what is found under it and nothing else. -/
theorem get?_filter_ne (key other : κ) (map : List (κ × α)) :
    get? other (map.filter fun entry => entry.1 ≠ key) =
      if other = key then none else get? other map := by
  induction map with
  | nil => simp
  | cons entry rest ih =>
      obtain ⟨first, value⟩ := entry
      by_cases removed : first = key
      · subst removed
        rw [List.filter_cons_of_neg (by simp), ih, get?_cons]
        split <;> simp_all [eq_comm]
      · rw [List.filter_cons_of_pos (by simpa using removed), get?_cons, get?_cons, ih]
        split <;> simp_all

end Lookup

section Update

variable {κ α : Type} [LT κ] [DecidableLT κ] [DecidableEq κ]

/-- Setting a key changes what is found under it and nothing else. -/
theorem get?_put (key other : κ) (value : α) (map : List (κ × α)) :
    get? other (put key value map) = if other = key then some value else get? other map := by
  induction map with
  | nil =>
      rw [put, get?_cons]
      simp [eq_comm]
  | cons entry rest ih =>
      obtain ⟨first, old⟩ := entry
      rw [put]
      split
      · rw [get?_cons]
        simp [eq_comm]
      · split
        · subst first
          rw [get?_cons, get?_cons]
          split <;> simp_all [eq_comm]
        · rw [get?_cons, get?_cons, ih]
          by_cases same : first = other
          · subst other
            simp [eq_comm, ‹¬ key = first›]
          · simp [same]

theorem mem_put {key : κ} {value : α} {map : List (κ × α)} {entry : κ × α}
    (present : entry ∈ put key value map) : entry = (key, value) ∨ entry ∈ map := by
  induction map with
  | nil => simpa [put] using present
  | cons first rest ih =>
      rw [put] at present
      split at present
      · simpa using present
      · split at present
        · rcases List.mem_cons.mp present with new | old
          · exact Or.inl new
          · exact Or.inr (List.mem_cons_of_mem _ old)
        · rcases List.mem_cons.mp present with same | later
          · exact Or.inr (same ▸ List.mem_cons_self)
          · exact (ih later).imp_right (List.mem_cons_of_mem _)

end Update

def Ascending {κ α : Type} [LT κ] (map : List (κ × α)) : Prop :=
  map.Pairwise fun first second => first.1 < second.1

namespace Ascending

section Entries

variable {κ α : Type} [LT κ]

theorem nil : Ascending ([] : List (κ × α)) := List.Pairwise.nil

theorem filter {map : List (κ × α)} (ascending : Ascending map) (keep : κ × α → Bool) :
    Ascending (map.filter keep) :=
  List.Pairwise.filter keep ascending

variable [LE κ] [Std.LawfulOrderLT κ]

theorem nodup {map : List (κ × α)} (ascending : Ascending map) : map.Nodup :=
  ascending.imp fun below same => Std.ne_of_lt below (congrArg Prod.fst same)

theorem keys_nodup {map : List (κ × α)} (ascending : Ascending map) :
    (map.map Prod.fst).Nodup :=
  List.pairwise_map.mpr (ascending.imp Std.ne_of_lt)

/-- In an ascending map the entries are what is found. -/
theorem mem_iff [DecidableEq κ] {map : List (κ × α)} (ascending : Ascending map) {key : κ}
    {value : α} : (key, value) ∈ map ↔ get? key map = some value :=
  mem_iff_get? ascending.keys_nodup

/-- Among some of the entries of an ascending map, a key is found if its entry is one of them. -/
theorem get?_filter [DecidableEq κ] {map : List (κ × α)} (ascending : Ascending map)
    (keep : κ × α → Bool) (key : κ) :
    get? key (map.filter keep) = (get? key map).filter fun value => keep (key, value) := by
  refine Option.ext fun value => ?_
  rw [← (ascending.filter keep).mem_iff, List.mem_filter, ascending.mem_iff,
    Option.filter_eq_some_iff]

/-- The entry of a key, if any, is counted once. -/
theorem countP_split [DecidableEq κ] {map : List (κ × α)} (ascending : Ascending map) (key : κ)
    (kind : κ × α → Bool) :
    map.countP kind =
      (map.filter fun entry => entry.1 ≠ key).countP kind +
        ((get? key map).any fun value => kind (key, value)).toNat := by
  induction map with
  | nil => rfl
  | cons entry rest ih =>
      obtain ⟨first, stored⟩ := entry
      obtain ⟨above, ascendingRest⟩ := List.pairwise_cons.mp ascending
      rw [get?_cons]
      by_cases same : first = key
      · subst same
        have kept : rest.filter (fun entry => entry.1 ≠ first) = rest := by
          refine List.filter_eq_self.mpr fun other present => ?_
          exact decide_eq_true (Ne.symm (Std.ne_of_lt (above other present)))
        rw [List.filter_cons_of_neg (by simp), kept, if_pos rfl, List.countP_cons, Option.any_some]
        cases kind (first, stored) <;> rfl
      · rw [List.filter_cons_of_pos (by simpa using same), if_neg same, List.countP_cons,
          List.countP_cons, ih ascendingRest]
        omega

end Entries

section Order

variable {κ α : Type} [LE κ] [LT κ] [Std.IsLinearOrder κ] [Std.LawfulOrderLT κ] [DecidableEq κ]

theorem put [DecidableLT κ] {map : List (κ × α)} (ascending : Ascending map) (key : κ)
    (value : α) : Ascending (Ordered.put key value map) := by
  induction map with
  | nil => exact List.pairwise_singleton _ _
  | cons entry rest ih =>
      obtain ⟨first, old⟩ := entry
      obtain ⟨above, ascendingRest⟩ := List.pairwise_cons.mp ascending
      rw [Ordered.put]
      split
      · rename_i below
        refine List.pairwise_cons.mpr ⟨?_, ascending⟩
        intro other present
        rcases List.mem_cons.mp present with rfl | later
        · exact below
        · exact Std.lt_trans below (above other later)
      · rename_i notBelow
        split
        · subst first
          exact List.pairwise_cons.mpr ⟨above, ascendingRest⟩
        · rename_i different
          refine List.pairwise_cons.mpr ⟨?_, ih ascendingRest⟩
          intro other present
          rcases mem_put present with rfl | later
          · exact Std.lt_of_le_of_ne (Std.not_lt.mp notBelow) (Ne.symm different)
          · exact above other later

/-- Ascending maps in which the same is found are equal. -/
theorem ext {first second : List (κ × α)} (ascendingFirst : Ascending first)
    (ascendingSecond : Ascending second) (same : ∀ key, get? key first = get? key second) :
    first = second := by
  have permuted : first.Perm second := by
    refine (List.perm_ext_iff_of_nodup ascendingFirst.nodup ascendingSecond.nodup).mpr ?_
    rintro ⟨key, value⟩
    rw [ascendingFirst.mem_iff, ascendingSecond.mem_iff, same]
  refine permuted.eq_of_pairwise ?_ ascendingFirst ascendingSecond
  intro left right _ _ below above
  exact absurd (Std.lt_trans below above) Std.lt_irrefl

end Order

end Ascending

section Sets

variable {κ : Type} [LT κ] [DecidableLT κ] [DecidableEq κ]

theorem mem_insert {element other : κ} {set : List κ} :
    other ∈ insert element set ↔ other = element ∨ other ∈ set := by
  induction set with
  | nil => simp [insert]
  | cons first rest ih =>
      rw [insert]
      split
      · simp
      · split
        · subst element
          simp
        · simp only [List.mem_cons, ih]
          exact or_left_comm

@[simp]
theorem mem_ofList {element : κ} {elements : List κ} :
    element ∈ ofList elements ↔ element ∈ elements := by
  have started (set : List κ) :
      element ∈ elements.foldl (fun set element => insert element set) set ↔
        element ∈ elements ∨ element ∈ set := by
    induction elements generalizing set with
    | nil => simp
    | cons first rest ih =>
        rw [List.foldl_cons, ih, mem_insert, List.mem_cons]
        exact or_left_comm.trans or_assoc.symm
  rw [ofList, started]
  simp

variable [LE κ] [Std.IsLinearOrder κ] [Std.LawfulOrderLT κ]

theorem pairwise_insert {set : List κ} (ascending : set.Pairwise (· < ·)) (element : κ) :
    (insert element set).Pairwise (· < ·) := by
  induction set with
  | nil => exact List.pairwise_singleton _ _
  | cons first rest ih =>
      obtain ⟨above, ascendingRest⟩ := List.pairwise_cons.mp ascending
      rw [insert]
      split
      · rename_i below
        refine List.pairwise_cons.mpr ⟨?_, ascending⟩
        intro other present
        rcases List.mem_cons.mp present with rfl | later
        · exact below
        · exact Std.lt_trans below (above other later)
      · rename_i notBelow
        split
        · exact ascending
        · rename_i different
          refine List.pairwise_cons.mpr ⟨?_, ih ascendingRest⟩
          intro other present
          rcases mem_insert.mp present with rfl | later
          · exact Std.lt_of_le_of_ne (Std.not_lt.mp notBelow) (Ne.symm different)
          · exact above other later

theorem pairwise_ofList (elements : List κ) : (ofList elements).Pairwise (· < ·) := by
  have started (set : List κ) (ascending : set.Pairwise (· < ·)) :
      (elements.foldl (fun set element => insert element set) set).Pairwise (· < ·) := by
    induction elements generalizing set with
    | nil => exact ascending
    | cons first rest ih => exact ih _ (pairwise_insert ascending first)
  exact started [] .nil

omit [DecidableLT κ] [DecidableEq κ] in
/-- Ascending sets with the same elements are equal. -/
theorem eq_of_mem_iff {first second : List κ} (ascendingFirst : first.Pairwise (· < ·))
    (ascendingSecond : second.Pairwise (· < ·))
    (same : ∀ element, element ∈ first ↔ element ∈ second) : first = second := by
  have permuted : first.Perm second :=
    (List.perm_ext_iff_of_nodup (ascendingFirst.imp Std.ne_of_lt)
      (ascendingSecond.imp Std.ne_of_lt)).mpr same
  refine permuted.eq_of_pairwise ?_ ascendingFirst ascendingSecond
  intro left right _ _ below above
  exact absurd (Std.lt_trans below above) Std.lt_irrefl

end Sets

section Search

variable {κ : Type} [LE κ] [LT κ]

/-- What comes before an index is below an element, and nothing from there on is. -/
structure Divides (element : κ) (elements : Array κ) (index : Nat) : Prop where
  within : index ≤ elements.size
  below : ∀ i (inside : i < elements.size), i < index → elements[i] < element
  above : ∀ i (inside : i < elements.size), index ≤ i → element ≤ elements[i]

variable [Std.IsLinearOrder κ] [Std.LawfulOrderLT κ] [DecidableLT κ] [DecidableEq κ]
  {element : κ} {elements : Array κ}

omit [DecidableLT κ] [DecidableEq κ] in
/-- In an ascending array the index of an element divides it at this element. -/
theorem divides_of_getElem (ascending : elements.toList.Pairwise (· < ·)) {index : Nat}
    (inside : index < elements.size) : Divides elements[index] elements index where
  within := Nat.le_of_lt inside
  below i _ before := List.pairwise_iff_getElem.mp ascending i index _ _ before
  above i present behind := by
    rcases Nat.eq_or_lt_of_le behind with rfl | strictly
    · exact Std.le_refl _
    · exact Std.le_of_lt (List.pairwise_iff_getElem.mp ascending index i _ _ strictly)

/-- A search in a part of an array outside of which the element cannot be. -/
theorem searchBetween_divides (ascending : elements.toList.Pairwise (· < ·)) {low high : Nat}
    (ordered : low ≤ high) (within : high ≤ elements.size)
    (below : ∀ i (inside : i < elements.size), i < low → elements[i] < element)
    (above : ∀ i (inside : i < elements.size), high ≤ i → element ≤ elements[i]) :
    match searchBetween element elements low high within with
    | .ok index => elements[index]? = some element ∧ Divides element elements index
    | .error index => Divides element elements index := by
  fun_induction searchBetween element elements low high within with
  | case1 low high within unfinished middle found =>
      subst found
      exact ⟨by simp, divides_of_getElem ascending (by omega)⟩
  | case2 low high within unfinished middle missed smaller ih =>
      refine ih (by omega) below ?_
      intro i inside behind
      have divides := divides_of_getElem ascending (show middle < elements.size by omega)
      exact Std.le_trans (Std.le_of_lt smaller) (divides.above i inside behind)
  | case3 low high within unfinished middle missed notSmaller ih =>
      have larger : elements[middle] < element :=
        Std.lt_of_le_of_ne (Std.not_lt.mp notSmaller) (Ne.symm missed)
      have divides := divides_of_getElem ascending (show middle < elements.size by omega)
      refine ih (by omega) ?_ above
      intro i inside before
      rcases Nat.eq_or_lt_of_le (Nat.le_of_lt_succ before) with rfl | strictly
      · exact larger
      · exact Std.lt_trans (divides.below i inside strictly) larger
  | case4 low high within finished =>
      obtain rfl : low = high := by omega
      exact ⟨within, below, above⟩

/-- The index that a search yields, whether the element is there or not, divides the array. -/
theorem search_divides (ascending : elements.toList.Pairwise (· < ·)) (element : κ) :
    match search element elements with
    | .ok index => elements[index]? = some element ∧ Divides element elements index
    | .error index => Divides element elements index := by
  refine searchBetween_divides ascending (Nat.zero_le _) (Nat.le_refl _) ?_ ?_
  · intro i _ before
    exact absurd before (Nat.not_lt_zero i)
  · intro i inside behind
    exact absurd inside (Nat.not_lt.mpr behind)

end Search

end ReadThrough.Ordered
