/-!
# Ascending lists

Sets and maps as lists in ascending order.  Adding to such a list keeps the
order and never repeats an element or a key.  An ascending array is searched by
halving.
-/

namespace ReadThrough.Ordered

section

variable {κ α : Type} [LT κ] [DecidableLT κ] [DecidableEq κ]

/-- Add an element to an ascending list, unless it is present. -/
def insert (element : κ) : List κ → List κ
  | [] => [element]
  | other :: rest =>
    if element < other then element :: other :: rest
    else if element = other then other :: rest
    else other :: insert element rest

def ofList (elements : List κ) : List κ :=
  elements.foldl (fun set element => insert element set) []

/-- Set the value of a key in a map that is ascending by its keys. -/
def put (key : κ) (value : α) : List (κ × α) → List (κ × α)
  | [] => [(key, value)]
  | (other, old) :: rest =>
    if key < other then (key, value) :: (other, old) :: rest
    else if key = other then (key, value) :: rest
    else (other, old) :: put key value rest

def get? (key : κ) (map : List (κ × α)) : Option α :=
  (map.find? fun entry => entry.1 = key).map Prod.snd

/--
The index of an element in a part of an ascending array, or else the index at
which it would have to be inserted.
-/
def searchBetween (element : κ) (elements : Array κ) (low high : Nat)
    (within : high ≤ elements.size) : Except Nat Nat :=
  if below : low < high then
    let middle := low + (high - low) / 2
    if element = elements[middle] then .ok middle
    else if element < elements[middle] then
      searchBetween element elements low middle (by omega)
    else searchBetween element elements (middle + 1) high within
  else .error low
  termination_by high - low

/--
The index of an element in an ascending array, or else the index at which it
would have to be inserted.
-/
def search (element : κ) (elements : Array κ) : Except Nat Nat :=
  searchBetween element elements 0 elements.size (Nat.le_refl _)

end

end ReadThrough.Ordered
