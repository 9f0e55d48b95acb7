import ReadThrough.Peer.Ring

/-!
# Lookup tables

A ring as it is searched: the held positions in ascending order, for a search
by halving, beside a map that tells their holders.  Whoever changes the holders
publishes them together with the positions, sorted anew.
-/

namespace ReadThrough.Peer

structure Table where
  hash : Hash
  replicas : Nat
  /-- The held positions in ascending order. -/
  positions : Array UInt32
  /-- The holders of the positions, in any order. -/
  holders : List (UInt32 × String)

namespace Table

/-- Why a lookup stops without an answer. -/
inductive Fault where
  | outOfBounds (index size : Nat)
  deriving DecidableEq, Repr

def Fault.message : Fault → String
  | .outOfBounds index size =>
    "index out of bounds: the len is " ++ toString size ++ " but the index is " ++ toString index

def empty (hash : Hash) (replicas : Nat) : Table := ⟨hash, replicas, #[], []⟩

def publish (table : Table) (holders : List (UInt32 × String)) : Table :=
  { table with
    positions := ((holders.map Prod.fst).mergeSort fun first second => first ≤ second).toArray
    holders }

def free (holders : List (UInt32 × String)) (position : UInt32) : List (UInt32 × String) :=
  holders.filter fun entry => entry.1 ≠ position

/-- Let a member hold a position, whoever held it before. -/
def hold (member : String) (holders : List (UInt32 × String)) (position : UInt32) :
    List (UInt32 × String) :=
  (position, member) :: free holders position

/-- Free a position, if the member holds it. -/
def release (member : String) (holders : List (UInt32 × String)) (position : UInt32) :
    List (UInt32 × String) :=
  if Ordered.get? position holders = some member then free holders position else holders

def add (table : Table) (members : List String) : Table :=
  table.publish <| members.foldl (fun holders member =>
    (Ring.positions table.hash table.replicas member).foldl (hold member) holders) table.holders

def remove (table : Table) (member : String) : Table :=
  table.publish <|
    (Ring.positions table.hash table.replicas member).foldl (release member) table.holders

/-- The index of the first position from the given one on, or the number of positions. -/
def indexFrom (table : Table) (position : UInt32) : Nat :=
  match Ordered.search position table.positions with
  | .ok index | .error index => index

/-- The member to which a key belongs; the remainder leads around the end of the ring. -/
def owner? (table : Table) (key : String) : Except Fault (Option String) :=
  if table.positions.isEmpty then .ok none
  else
    let size := table.positions.size
    let index := table.indexFrom (Ring.place table.hash key) % size
    match table.positions[index]? with
    | some position => .ok (Ordered.get? position table.holders)
    | none => .error (.outOfBounds index size)

def members (table : Table) : List String :=
  Ordered.ofList (table.holders.map Prod.snd)

def size (table : Table) : Nat := table.positions.size

end Table

end ReadThrough.Peer
