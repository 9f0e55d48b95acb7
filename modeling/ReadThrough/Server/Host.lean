import ReadThrough.Config.Document
import ReadThrough.Numeric.Decimal

/-!
# Hosts

The addresses of this machine that a host stands for.  An address of version 4
consists of up to four numbers, each in decimal, octal or hexadecimal notation,
of which the last one fills the remaining octets.  Every such address belongs
to this machine.  Of the addresses of version 6 it has those that stand for
ones of version 4, and the one that stands for all addresses.
-/

namespace ReadThrough.Server

/-- The addresses of a machine that a host stands for. -/
inductive Host where
  | all
  | one (address : Nat)
  deriving DecidableEq, Repr

namespace Host

def parts (separator : Char) (chars : List Char) : List (List Char) :=
  let (head, tail) := Config.splitAt separator chars
  head :: tail

def ofAddress (address : Nat) : Host :=
  if address = 0 then .all else .one address

/-- A number in the notation that its first characters tell. -/
def number? : List Char → Option Nat
  | '0' :: 'x' :: digits | '0' :: 'X' :: digits => Numeric.natural? 16 digits
  | '0' :: digits => Numeric.natural? 8 ('0' :: digits)
  | digits => Numeric.natural? 10 digits

/-- The address of version 4 with the given numbers; `room` is the limit of those to come. -/
def joined? (room : Nat) : List Nat → Option Nat
  | [] => none
  | [last] => if last < room then some last else none
  | octet :: rest =>
    if octet < 256 ∧ 256 < room then (joined? (room / 256) rest).map (octet * (room / 256) + ·)
    else none

def version4? (chars : List Char) : Option Nat :=
  ((parts '.' chars).mapM number?).bind (joined? (1 <<< 32))

def octet? (chars : List Char) : Option Nat := do
  let octet ← Numeric.natural? 10 chars
  if octet < 256 ∧ (chars.length = 1 ∨ chars.head? ≠ some '0') then some octet else none

/-- The two groups of an address of version 6 that are written as an address of version 4. -/
def embedded? (chars : List Char) : Option (List Nat) := do
  match ← (parts '.' chars).mapM octet? with
  | [first, second, third, fourth] => some [first * 256 + second, third * 256 + fourth]
  | _ => none

def group? (chars : List Char) : Option Nat :=
  if chars.length ≤ 4 then Numeric.natural? 16 chars else none

/-- Groups of an address of version 6, of which the last two may be in another notation. -/
def groups? : List (List Char) → Option (List Nat)
  | [] => some []
  | [last] => ((group? last).map fun group => [group]) <|> embedded? last
  | first :: rest => do return (← group? first) :: (← groups? rest)

/-- What stands before and behind the first pair of colons. -/
def splitAtGap : List Char → List Char × Option (List Char)
  | ':' :: ':' :: rest => ([], some rest)
  | char :: rest =>
    let (head, tail?) := splitAtGap rest
    (char :: head, tail?)
  | [] => ([], none)

def side? (chars : List Char) : Option (List Nat) :=
  if chars.isEmpty then some [] else groups? (parts ':' chars)

/-- The eight groups of an address of version 6; a pair of colons stands for groups of zero. -/
def version6? (chars : List Char) : Option (List Nat) :=
  match splitAtGap chars with
  | (whole, none) => (side? whole).filter fun groups => groups.length = 8
  | (head, some tail) => do
    let front ← side? head
    let back ← side? tail
    if front.length + back.length < 8 ∧ !head.contains '.' then
      some (front ++ List.replicate (8 - front.length - back.length) 0 ++ back)
    else none

/-- The host with an address of version 6, if it belongs to this machine. -/
def ofGroups? : List Nat → Option Host
  | [0, 0, 0, 0, 0, 0, 0, 0] => some .all
  | [0, 0, 0, 0, 0, 0xFFFF, high, low] => some (ofAddress (high <<< 16 + low))
  | _ => none

def localName : List Char := "localhost".toList

def localAddress : Nat := 127 <<< 24 + 1

/-- The host that a name or an address stands for; addresses of version 6 may be in brackets. -/
def ofText? (text : String) : Option Host :=
  let chars := text.toList
  if chars.map Char.toLower = localName then some (.one localAddress)
  else
    match chars with
    | '[' :: rest =>
      if rest.getLast? = some ']' then (version6? rest.dropLast).bind ofGroups? else none
    | _ =>
      if chars.contains ':' then (version6? chars).bind ofGroups?
      else (version4? chars).map ofAddress

end Host

end ReadThrough.Server
