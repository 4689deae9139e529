import TestWorker.Console
import TestWorker.Schedule

namespace TestWorker

inductive Signal where
  /-- No further cycles are wanted. -/
  | stop
  | cycleEnded (cycle : Nat) (outcome : Except Fault Unit)

/-- How cycles are carried out: what one starts with, and what the ends of its strands lead to. -/
structure Routine {τ : Type} (ρ : τ → Type) (S : Type) where
  begin : Nat → S → Reaction ρ S
  react : Instant → (t : τ) → ρ t → S → Reaction ρ S × List Signal

structure Shift (S : Type) where
  schedule : Schedule
  work : S
  /-- Results of the runs that have ended, the latest first. -/
  results : List Nat := []

namespace Shift

inductive Tag (τ : Type) where
  | run
  | stop
  | interval
  /-- The run goes on after so many more turns. -/
  | resume (turns : Nat)
  | opening (cycle : Nat)
  | closing (cycle : Nat)
  | notice
  | farewell (cycles : Nat)
  | inner (t : τ)

variable {τ S : Type} {ρ : τ → Type}

def Tag.Result (ρ : τ → Type) : Tag τ → Type
  | inner t => ρ t
  | _ => Unit

def inner (s : Strand ρ) : Strand (Tag.Result ρ) := ⟨.inner s.tag, s.rest⟩

def runStrand : Strand (Tag.Result ρ) := ⟨.run, .done ()⟩

/-- A stop that comes after a wait, and what is printed then. -/
def stopStrand (delay : Nat) (lines : List Line) : Strand (Tag.Result ρ) :=
  ⟨.stop, do
    Activity.pause delay
    Activity.print lines⟩

def timeUp : String := "Max polling time reached"

def finished (cycles : Nat) : String := "Worker finished after " ++ toString cycles ++ " cycle(s)"

def failure (c : Console) (cycle : Nat) (f : Fault) : List Line :=
  Console.error "Cycle failed" ("Cycle " ++ toString cycle ++ " raised " ++ f.kind) ++ c.fault f

/-- The strands that a command calls for: those that go on with the same turn, and the others. -/
def obey (c : Console) (oneShot : Bool) :
    Schedule.Command → List (Strand (Tag.Result ρ)) × List (Strand (Tag.Result ρ))
  | .sleep interval => ([⟨.interval, Activity.pause interval⟩], [])
  | .begin n => ([], [⟨.opening n, Activity.print (c.cycleStarted n)⟩])
  | .resume turns => ([], [⟨.resume turns, .done ()⟩])
  | .timeUp => ([⟨.notice, Activity.print (c.info timeUp)⟩], [])
  | .finish n =>
    ([⟨.farewell n, if oneShot then .done () else Activity.print (c.info (finished n))⟩], [])

def follow (c : Console) (s : Shift S) (x : Schedule × List Schedule.Command) :
    Reaction (Tag.Result ρ) (Shift S) where
  state := { s with schedule := x.1 }
  first := x.2.flatMap fun command => (obey c x.1.oneShot command).1
  later := x.2.flatMap fun command => (obey c x.1.oneShot command).2

/-- What a signal leads to, on top of what is to be done already. -/
def heed (c : Console) (x : Reaction (Tag.Result ρ) (Shift S)) :
    Signal → Reaction (Tag.Result ρ) (Shift S)
  | .stop =>
    let y := follow c x.state x.state.schedule.stop
    { state := y.state, first := x.first ++ y.first, later := x.later ++ y.later }
  | .cycleEnded n outcome =>
    let lines := match outcome with
      | .ok () => []
      | .error f => failure c n f
    { x with first := x.first ++ [⟨.closing n, Activity.print lines⟩] }

def plan (c : Console) (routine : Routine ρ S) : Plan (Tag.Result ρ) (Shift S)
  | now, .run, _, s => follow c s (s.schedule.run now)
  | _, .stop, _, s => follow c s s.schedule.stop
  | _, .interval, _, s => follow c s s.schedule.expire
  | _, .resume (turns + 1), _, s => { state := s, later := [⟨.resume turns, .done ()⟩] }
  | now, .resume 0, _, s => follow c s (s.schedule.proceed now)
  | now, .opening n, _, s =>
    let x := routine.begin n s.work
    { state := { s with schedule := s.schedule.note now n true, work := x.state }
      first := x.first.map inner
      later := x.later.map inner }
  | now, .closing n, _, s => follow c s (s.schedule.note now n false).endCycle
  | _, .notice, _, s => { state := s }
  | _, .farewell n, _, s => { state := { s with results := n :: s.results } }
  | now, .inner t, result, s =>
    let (x, signals) := routine.react now t result s.work
    signals.foldl (heed c)
      { state := { s with work := x.state }
        first := x.first.map inner
        later := x.later.map inner }

variable {σ : Type}

def ready (crew : Crew (Tag.Result ρ) (Shift S) σ) : Crew (Tag.Result ρ) (Shift S) σ :=
  { crew with ready := crew.ready ++ [runStrand] }

def serve (c : Console) (routine : Routine ρ S) (o : Outside σ) (fuel : Nat)
    (crew : Crew (Tag.Result ρ) (Shift S) σ) : Crew (Tag.Result ρ) (Shift S) σ :=
  let target := crew.state.results.length + 1
  Crew.runUntil (plan c routine) o (fun s => target ≤ s.results.length) fuel (ready crew)

end Shift
end TestWorker
