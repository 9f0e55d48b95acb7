import ReadThrough.Numeric.Binary32
import ReadThrough.Quantity

/-!
# Spans of time

Lengths of time in nanoseconds.  A span is read as a number with one of the
units `ms`, `s`, `m`, `h` and `d` in either case; a number without a unit is
in milliseconds.  The seconds are multiplied without a check: reading stops
with a fault when they leave 64 bits.
-/

namespace ReadThrough

open Numeric (Binary32)

structure Span where
  nanoseconds : Nat
  deriving DecidableEq, Repr, Inhabited

namespace Span

def ofMicroseconds (amount : Nat) : Span := ⟨amount * 1000⟩

def ofMilliseconds (amount : Nat) : Span := ⟨amount * 1000000⟩

def ofSeconds (amount : Nat) : Span := ⟨amount * 1000000000⟩

def microseconds (span : Span) : Nat := span.nanoseconds / 1000

def milliseconds (span : Span) : Nat := span.nanoseconds / 1000000

def seconds (span : Span) : Nat := span.nanoseconds / 1000000000

def subsecondNanoseconds (span : Span) : Nat := span.nanoseconds % 1000000000

inductive Scale where
  | milliseconds
  /-- So many seconds per unit. -/
  | seconds (factor : Nat)
  deriving DecidableEq, Repr

def scale? : List Char → Option Scale
  | [] | ['m', 's'] | ['M', 'S'] => some .milliseconds
  | ['s'] | ['S'] => some (.seconds 1)
  | ['m'] | ['M'] => some (.seconds 60)
  | ['h'] | ['H'] => some (.seconds (60 * 60))
  | ['d'] | ['D'] => some (.seconds (60 * 60 * 24))
  | _ => none

def ofText (text : String) : Except Quantity.ReadError Span :=
  match Quantity.Expression.ofText? text with
  | none => .error (.malformed text)
  | some expression =>
    match scale? expression.unit with
    | none => .error (.malformed text)
    | some scale =>
      match Numeric.Decimal.read Numeric.Decimal.wordLimit expression.digits with
      | .error cause => .error (.digits text cause)
      | .ok number =>
        match scale with
        | .milliseconds => .ok (ofMilliseconds number)
        | .seconds factor =>
          if number * factor < Numeric.Decimal.wordLimit then .ok (ofSeconds (number * factor))
          else .error .overflow

def readErrorCauses : Quantity.ReadError → List String
  | .malformed text =>
    ["Cannot parse '" ++ text ++ "' into a duration expression. " ++
      "Expected a positive number and optionally 'ms', 's', 'm', 'h' or 'd' as suffix."]
  | .digits text cause => ["Duration '" ++ text ++ "' is out of range.", cause.message]
  | .outOfRange text => ["Duration '" ++ text ++ "' is out of range."]
  | .overflow => [Quantity.overflowMessage]

def microsecondsText (amount : Int) : String :=
  let milliseconds (places : Nat) : String :=
    ((Binary32.ofNat amount.toNat).div (.ofNat 1000)).fixedPlaces places
  let seconds (places : Nat) : String :=
    ((Binary32.ofNat amount.toNat).div (.ofNat 1000000)).fixedPlaces places
  if amount < 0 then toString (amount.tdiv 1000000) ++ " s"
  else if amount < 1000 then toString amount ++ " us"
  else if amount < 10000 then milliseconds 2 ++ " ms"
  else if amount < 100000 then milliseconds 1 ++ " ms"
  else if amount < 1000000 then toString (amount / 1000) ++ " ms"
  else if amount < 10000000 then seconds 2 ++ " s"
  else if amount < 100000000 then seconds 1 ++ " s"
  else toString (amount / 1000000) ++ " s"

end Span

end ReadThrough
