import TestWorker.Cycle

namespace TestWorker

namespace Agent

abbrev Crew (σ : Type) := TestWorker.Crew (Shift.Tag.Result Cycle.Tag.Result) (Shift (List Cycle)) σ

abbrev Plan := TestWorker.Plan (Shift.Tag.Result Cycle.Tag.Result) (Shift (List Cycle))

/-- How the connections for the actions of jobs are set up: only a job itself limits their time. -/
def profile (s : Settings) : Web.Profile := ⟨!s.ignoreSsl, true, none⟩

def equipment (providers : List Provider) : Equipment := ⟨⟨some .targets, true⟩, providers⟩

def schedule (s : Settings) : Schedule :=
  { frequency := s.frequency.getD 0, maxTime := s.maxTime.getD 0 }

def plan (w : Worker) : Plan := Shift.plan w.console (Cycle.routine w)

def crew (w : Worker) (surroundings : σ) : Crew σ where
  state := { schedule := schedule w.settings, work := [] }
  surroundings := surroundings

def serve (w : Worker) (o : Outside σ) (fuel : Nat) (c : Crew σ) : Crew σ :=
  Shift.serve w.console (Cycle.routine w) o fuel c

def cycles (c : Crew σ) : Nat := c.state.results.head?.getD 0

def signals : List Nat := [2, 15]

def received (signal : Nat) : String :=
  "\nReceived signal " ++ toString signal ++ ", finishing in-flight cycles..."

/-- Told only in debugging: a signal that cannot be handled. -/
def unhandled (c : Console) : List Line :=
  signals.flatMap fun s => c.debugging ("Signal handler for " ++ toString s ++ " not installed")

/-- A signal that comes after so much time. -/
def signal (w : Worker) (delay number : Nat) (c : Crew σ) : Crew σ :=
  { c with ready := c.ready ++ [Shift.stopStrand delay (w.console.info (received number))] }

end Agent
end TestWorker
