import ReadThrough.Numeric.Binary32
import ReadThrough.Quantity

/-!
# Sizes

Numbers of bytes, written with binary units.  A size is shown with about three
significant digits; it is read as a number with one of the letters `b`, `k`,
`m`, `g` and `t` in either case.
-/

namespace ReadThrough.Size

open Numeric (Binary32)

/-- The units from the smallest one on; each is 1024 times the one before. -/
def unitNames : List String := ["Bytes", "KiB", "MiB", "GiB", "TiB", "PiB"]

/-- Divide by 1024 until the amount is at most 1024 or no larger unit is left. -/
def reduce (amount : Binary32) : List String → Binary32 × String
  | [] => (amount, "")
  | [unit] => (amount, unit)
  | unit :: larger =>
    if amount.ble (.ofNat 1024) then (amount, unit)
    else reduce (amount.div (.ofNat 1024)) larger

/-- Amounts up to ten have two decimal places, those up to a hundred have one. -/
def places (amount : Binary32) : Nat :=
  if amount.ble (.ofNat 10) then 2
  else if amount.ble (.ofNat 100) then 1
  else 0

def text (bytes : Nat) : String :=
  if bytes = 1 then "1 byte"
  else if bytes < 1024 then toString bytes ++ " bytes"
  else
    let (amount, unit) := reduce (.ofNat bytes) unitNames
    amount.fixedPlaces (places amount) ++ " " ++ unit

def exponent? : List Char → Option Nat
  | [] | ['b'] | ['B'] => some 0
  | ['k'] | ['K'] => some 1
  | ['m'] | ['M'] => some 2
  | ['g'] | ['G'] => some 3
  | ['t'] | ['T'] => some 4
  | _ => none

def ofText (text : String) : Except Quantity.ReadError Nat :=
  match Quantity.Expression.ofText? text with
  | none => .error (.malformed text)
  | some expression =>
    match exponent? expression.unit with
    | none => .error (.malformed text)
    | some exponent =>
      match Numeric.Decimal.read Numeric.Decimal.wordLimit expression.digits with
      | .error cause => .error (.digits text cause)
      | .ok number =>
        let bytes := number * Nat.pow 1024 exponent
        if bytes < Numeric.Decimal.wordLimit then .ok bytes else .error (.outOfRange text)

def readErrorCauses : Quantity.ReadError → List String
  | .malformed text =>
    ["Cannot parse '" ++ text ++ "' into a size expression. " ++
      "Expected a positive number and optionally 'b', 'k', 'm', 'g' or 't' as suffix."]
  | .digits text cause => ["Size '" ++ text ++ "' is out of range.", cause.message]
  | .outOfRange text => ["Size '" ++ text ++ "' is out of range."]
  | .overflow => [Quantity.overflowMessage]

end ReadThrough.Size
