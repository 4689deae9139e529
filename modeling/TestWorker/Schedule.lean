import TestWorker.Crew

namespace TestWorker

/-- What a run is doing. -/
inductive Phase where
  /-- No run is going on. -/
  | idle
  /-- The interval passes; a stop ends the wait at once. -/
  | sleeping
  /-- The interval has passed; a cycle is about to begin. A stop that comes now comes too late. -/
  | due
  /-- A stop has ended the wait. -/
  | roused
  /-- The only cycle is in flight. -/
  | single
  /-- No more cycles begin; those in flight go on. -/
  | draining
  deriving DecidableEq, Repr

/-- The start or the end of a cycle, and how many were in flight. -/
structure Schedule.Event where
  time : Instant
  begins : Bool
  cycle : Nat
  inFlight : Int
  deriving DecidableEq, Repr

structure Schedule where
  /-- Milliseconds between cycles; zero for a single cycle. -/
  frequency : Int := 0
  /-- Milliseconds in which cycles may begin; zero for no end. -/
  maxTime : Int := 0
  started : Option Instant := none
  phase : Phase := .idle
  begun : Nat := 0
  ended : Nat := 0
  inFlight : Int := 0
  /-- Set when the last cycle in flight ends, cleared when one begins. -/
  drained : Bool := true
  stopping : Bool := false
  /-- Starts and ends of cycles, the latest first. -/
  history : List Schedule.Event := []
  deriving Repr

namespace Schedule

def oneShot (s : Schedule) : Bool := s.frequency == 0

/-- Whether more time has passed than cycles may begin in. -/
def overdue (s : Schedule) (now : Instant) : Bool :=
  match s.started with
  | some t => s.maxTime != 0 && decide (s.maxTime * Clock.millisecond < (now : Int) - t)
  | none => false

def interval (s : Schedule) : Nat := s.frequency.toNat * Clock.millisecond

inductive Command where
  /-- Let the interval pass. -/
  | sleep (interval : Nat)
  | begin (cycle : Nat)
  /-- Go on with the run, after so many turns of others. -/
  | resume (turns : Nat)
  /-- The time is up. -/
  | timeUp
  /-- The run has ended with so many cycles begun in all. -/
  | finish (cycles : Nat)
  deriving DecidableEq, Repr

def launch (s : Schedule) : Schedule :=
  { s with inFlight := s.inFlight + 1, begun := s.begun + 1, drained := false }

/-- The run ends at once when nothing is in flight, else with the last cycle. -/
def drain (s : Schedule) : Schedule × List Command :=
  if s.drained then
    ({ s with phase := .idle }, [.finish s.begun])
  else ({ s with phase := .draining }, [])

/-- Before each interval a stop is looked for. -/
def rest (s : Schedule) : Schedule × List Command :=
  if s.stopping then s.drain
  else if 0 < s.frequency then ({ s with phase := .sleeping }, [.sleep s.interval])
  else ({ s with phase := .due }, [.resume 2])

def run (now : Instant) (s : Schedule) : Schedule × List Command :=
  let s := { s with started := some now }
  if s.oneShot then
    let s := s.launch
    ({ s with phase := .single }, [.begin s.begun])
  else s.rest

/-- No further cycles begin, except one whose interval has already passed. -/
def stop (s : Schedule) : Schedule × List Command :=
  let s := { s with stopping := true }
  match s.phase with
  | .sleeping => ({ s with phase := .roused }, [.resume 2])
  | _ => (s, [])

def expire (s : Schedule) : Schedule × List Command :=
  match s.phase with
  | .sleeping => ({ s with phase := .due }, [.resume 2])
  | _ => (s, [])

/-- The run goes on after a wait. -/
def proceed (now : Instant) (s : Schedule) : Schedule × List Command :=
  match s.phase with
  | .due =>
    if s.overdue now then
      let (s, commands) := s.drain
      (s, .timeUp :: commands)
    else
      let (s, commands) := s.launch.rest
      (s, .begin s.begun :: commands)
  | .roused | .draining => s.drain
  | .single => ({ s with phase := .idle }, [.finish s.begun])
  | .idle | .sleeping => (s, [])

def note (now : Instant) (cycle : Nat) (begins : Bool) (s : Schedule) : Schedule :=
  { s with history := ⟨now, begins, cycle, s.inFlight⟩ :: s.history }

/-- A cycle has ended, whatever its outcome. -/
def endCycle (s : Schedule) : Schedule × List Command :=
  let left := s.inFlight - 1
  let s :=
    { s with inFlight := left, ended := s.ended + 1, drained := s.drained || decide (left ≤ 0) }
  match s.phase with
  | .draining => (s, if s.drained then [.resume 0] else [])
  | .single => (s, [.resume 0])
  | _ => (s, [])

end Schedule
end TestWorker
