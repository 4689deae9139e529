import TestWorker.Number.Double

namespace TestWorker

abbrev Instant := Nat

namespace Clock

def millisecond : Nat := 128

/-- The 1024th part of a second. -/
def tick : Nat := 125

def elapsed (started now : Instant) : Double := .ofQuotient false (now - started) millisecond

/-- Milliseconds between two readings in seconds, none where the later one lies before. -/
def elapsedSeconds (started now : Double) : Double :=
  let ms := (now.sub started).mul (.ofNat 1000)
  if (Double.zero false).lt ms then ms else .zero false

end Clock
end TestWorker
