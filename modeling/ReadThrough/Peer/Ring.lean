import ReadThrough.Ordered
import ReadThrough.Text.Utf8

/-!
# Hash ring

The members of a cluster on a ring of 32 bit positions.  Each member is placed
several times, at the hashes of its name with a number in front.  The member
that is placed last at a position holds it.  A key belongs to the member at
the first position from the hash of the key on, around the end of the ring.

The hash in use is the check sum of IEEE 802.3: reflected, with all bits set at
the start and inverted at the end.
-/

namespace ReadThrough.Crc32

/-- The generator polynomial, with its lowest power in the highest bit. -/
def polynomial : UInt32 := 0xEDB88320

def shift (remainder : UInt32) : UInt32 :=
  if remainder &&& 1 == 1 then (remainder >>> 1) ^^^ polynomial else remainder >>> 1

def addByte (remainder : UInt32) (byte : UInt8) : UInt32 :=
  Nat.repeat shift 8 (remainder ^^^ byte.toUInt32)

def checksum (bytes : Bytes) : UInt32 :=
  bytes.foldl addByte 0xFFFFFFFF ^^^ 0xFFFFFFFF

end ReadThrough.Crc32

namespace ReadThrough.Peer

abbrev Hash := Bytes → UInt32

/-- The held positions of a ring, in ascending order, each with its holder. -/
structure Ring where
  hash : Hash
  replicas : Nat
  nodes : List (UInt32 × String)

namespace Ring

def empty (hash : Hash) (replicas : Nat) : Ring := ⟨hash, replicas, []⟩

def place (hash : Hash) (text : String) : UInt32 := hash (Utf8.encode text)

def positions (hash : Hash) (replicas : Nat) (member : String) : List UInt32 :=
  (List.range replicas).map fun index => place hash (toString index ++ member)

def addMember (ring : Ring) (member : String) : Ring :=
  { ring with
    nodes := (positions ring.hash ring.replicas member).foldl
      (fun nodes position => Ordered.put position member nodes) ring.nodes }

/-- Place the members in the order of the list. -/
def add (ring : Ring) (members : List String) : Ring :=
  members.foldl addMember ring

def ofMembers (hash : Hash) (replicas : Nat) (members : List String) : Ring :=
  (empty hash replicas).add members

def remove (ring : Ring) (member : String) : Ring :=
  let freed := positions ring.hash ring.replicas member
  { ring with
    nodes := ring.nodes.filter fun node => !(node.2 == member && freed.contains node.1) }

def owner? (ring : Ring) (key : String) : Option String :=
  let position := place ring.hash key
  ((ring.nodes.find? fun node => position ≤ node.1).or ring.nodes.head?).map Prod.snd

def members (ring : Ring) : List String :=
  Ordered.ofList (ring.nodes.map Prod.snd)

def size (ring : Ring) : Nat := ring.nodes.length

end Ring

end ReadThrough.Peer
