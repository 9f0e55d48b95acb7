import ReadThrough.Average

/-!
# Averages in machine words

An average with the sum of its samples and their number in one word of 64 bits,
so that both are always replaced together.  The number of all recorded values is
a second word, which wraps around.  An operation that leaves the range of its
words, or that divides by zero, is a fault; it never happens.
-/

namespace ReadThrough.Average

/-- An average in two words. -/
structure Word where
  /-- The sum of the samples in the upper half and their number in the lower one. -/
  packed : UInt64
  recorded : UInt64
  deriving DecidableEq, Repr

namespace Word

inductive Fault where
  | addition
  | multiplication
  | division
  deriving DecidableEq, Repr

def Fault.message : Fault → String
  | .addition => "attempt to add with overflow"
  | .multiplication => "attempt to multiply with overflow"
  | .division => "attempt to divide by zero"

def empty : Word := ⟨0, 0⟩

def pack (sum samples : UInt32) : UInt64 := sum.toUInt64 <<< 32 ||| samples.toUInt64

/-- The upper half of a word. -/
def sum (word : Word) : UInt32 := (word.packed >>> 32).toUInt32

/-- The lower half of a word. -/
def samples (word : Word) : UInt32 := word.packed.toUInt32

def overflows (left right : UInt32) : Bool := UInt32.size ≤ left.toNat + right.toNat

def plus (left right : UInt32) : Except Fault UInt32 :=
  if overflows left right then .error .addition else .ok (left + right)

def times (left right : UInt64) : Except Fault UInt64 :=
  if left.toNat * right.toNat < UInt64.size then .ok (left * right) else .error .multiplication

def dividedBy (left right : UInt64) : Except Fault UInt64 :=
  if right = 0 then .error .division else .ok (left / right)

def crowded (sum samples value : UInt32) : Bool :=
  0 < samples && (UInt32.ofNat sampleLimit ≤ samples || overflows sum value)

/-- The share of half of the samples in their sum, worked out in 64 bits. -/
def halfShare (sum samples : UInt32) : Except Fault UInt32 := do
  let product ← times sum.toUInt64 (samples / 2).toUInt64
  let share ← dividedBy product samples.toUInt64
  return share.toUInt32

def makeRoom (sum samples value : UInt32) : Except Fault (UInt32 × UInt32) :=
  if _crowded : crowded sum samples value then
    match halfShare sum samples with
    | .ok share => makeRoom share (samples / 2) value
    | .error fault => .error fault
  else .ok (sum, samples)
  termination_by samples.toNat
  decreasing_by
    have positive : 0 < samples := by
      simp only [crowded, Bool.and_eq_true, decide_eq_true_eq] at _crowded
      exact _crowded.1
    rw [UInt32.lt_iff_toNat_lt] at positive
    exact Nat.div_lt_self positive (by decide)

def add (word : Word) (value : UInt32) : Except Fault Word := do
  let (sum, samples) ← makeRoom word.sum word.samples value
  let sum ← plus sum value
  let samples ← plus samples 1
  return ⟨pack sum samples, word.recorded + 1⟩

def addAll (word : Word) (values : List UInt32) : Except Fault Word :=
  values.foldlM add word

/-- Record a span in microseconds; longer ones than 32 bits count as the longest. -/
def addSpan (word : Word) (span : Span) : Except Fault Word :=
  word.add (.ofNat (min span.microseconds (sumLimit - 1)))

def value (word : Word) : UInt32 :=
  if word.samples = 0 then 0 else word.sum / word.samples

def average (word : Word) : Average :=
  ⟨word.sum.toNat, word.samples.toNat, word.recorded.toNat⟩

def text (word : Word) : String := word.average.text

end Word

end ReadThrough.Average
