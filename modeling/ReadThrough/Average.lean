import ReadThrough.Span

/-!
# Sliding averages

The average of a series of 32 bit values that forgets old values.  The sum and
the number of samples are halved whenever a hundred samples are present or the
sum would leave 32 bits, so recent values weigh more.
-/

namespace ReadThrough

/-- The samples in sight and the number of all values recorded so far. -/
structure Average where
  sum : Nat
  samples : Nat
  recorded : Nat
  deriving DecidableEq, Repr, Inhabited

namespace Average

/-- So many samples are halved before the next one is added. -/
def sampleLimit : Nat := 100

/-- The sums of samples lie below this limit. -/
def sumLimit : Nat := 1 <<< 32

def empty : Average := ⟨0, 0, 0⟩

def crowded (average : Average) (value : Nat) : Bool :=
  0 < average.samples &&
    (sampleLimit ≤ average.samples || sumLimit ≤ average.sum + value)

/-- Half of the samples, with their share of the sum. -/
def halve (average : Average) : Average :=
  { average with
    sum := average.sum * (average.samples / 2) / average.samples
    samples := average.samples / 2 }

def makeRoom (average : Average) (value : Nat) : Average :=
  if _crowded : average.crowded value then makeRoom average.halve value else average
  termination_by average.samples
  decreasing_by
    simp only [Average.crowded, Bool.and_eq_true, decide_eq_true_eq] at _crowded
    simp only [halve]
    omega

def add (average : Average) (value : UInt32) : Average :=
  let room := average.makeRoom value.toNat
  ⟨room.sum + value.toNat, room.samples + 1, average.recorded + 1⟩

/-- Record a span in microseconds; longer ones than 32 bits count as the longest. -/
def addSpan (average : Average) (span : Span) : Average :=
  average.add (.ofNat (min span.microseconds (sumLimit - 1)))

/-- The average of the samples in sight, rounded down; zero without samples. -/
def value (average : Average) : Nat :=
  average.sum / average.samples

def text (average : Average) : String :=
  Span.microsecondsText (min average.value (1 <<< 31 - 1)) ++
    " (" ++ toString average.recorded ++ ")"

end Average

end ReadThrough
