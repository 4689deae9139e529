import TestWorker.Batch
import TestWorker.Job
import TestWorker.Shift

namespace TestWorker

/-- How far one half of a cycle has come. -/
inductive Half where
  | fetching
  | working (b : Batch)
  /-- How many jobs were fetched, or what ended the half early. -/
  | ended (result : Except Fault Nat)

structure Cycle where
  number : Nat
  halves : List (Coordinator.Kind × Half)
  /-- The first failure of a half, or success when all have ended. -/
  outcome : Option (Except Fault Unit) := none

namespace Half

def hasEnded : Half → Bool
  | ended _ => true
  | _ => false

def count : Half → Nat
  | fetching => 0
  | working b => b.jobs.length
  | ended (.ok n) => n
  | ended (.error _) => 0

def outcome : Half → Except Fault Unit
  | ended (.error f) => .error f
  | _ => .ok ()

end Half

namespace Cycle

inductive Tag where
  | fetch (cycle : Nat) (k : Coordinator.Kind)
  | work (cycle : Nat) (k : Coordinator.Kind) (t : Batch.Tag)
  /-- The last job of a batch has ended. -/
  | tally (cycle : Nat) (k : Coordinator.Kind)
  | conclude (cycle : Nat) (k : Coordinator.Kind)
  /-- A half has failed, or the last half has ended. -/
  | settle (cycle : Nat) (k : Coordinator.Kind)
  | close (cycle : Nat)
  deriving DecidableEq, Repr

def Tag.Result : Tag → Type
  | fetch .. => Except Fault (List Value)
  | work _ _ t => t.Result
  | _ => Unit

def half (c : Cycle) (k : Coordinator.Kind) : Half :=
  ((c.halves.find? (·.1 == k)).map (·.2)).getD (.ended (.ok 0))

def setHalf (c : Cycle) (k : Coordinator.Kind) (h : Half) : Cycle :=
  { c with halves := c.halves.map fun (k', h') => if k' == k then (k', h) else (k', h') }

def finished (c : Cycle) : Bool := c.halves.all (·.2.hasEnded)

def find (cs : List Cycle) (n : Nat) : Cycle := (cs.find? (·.number == n)).getD ⟨n, [], none⟩

def put (cs : List Cycle) (c : Cycle) : List Cycle :=
  cs.map fun d => if d.number == c.number then c else d

/-- Fetches the jobs of a kind. That the coordinator gives none is printed and is no failure. -/
def fetch (w : Worker) (k : Coordinator.Kind) : Activity (Except Fault (List Value)) := do
  Activity.print (w.console.fetching k.plural
    (w.settings.url (k.path ++ "?amount=" ++ toString w.settings.batchSize)))
  match ← (Coordinator.fetch w.settings k).outcome with
  | .error (.coordinator message) =>
    Activity.print (Console.error ("Failed to fetch " ++ k.plural) message)
    return .ok []
  | result => return result

def job (w : Worker) (k : Coordinator.Kind) (raw : Value) : Activity Bool :=
  Worker.isolated w.console (Worker.jobName raw) (w.execute k raw)

def batch (w : Worker) (k : Coordinator.Kind) (raws : List Value) : Batch :=
  .create (raws.map (job w k)) (w.settings.concurrency.filter (0 < ·))

def kinds : List Coordinator.Kind := [.tests, .requests]

/-- A cycle over some kinds of jobs, and what it starts with. -/
def start (n : Nat) (ks : List Coordinator.Kind) (w : Worker) : Cycle × List (Strand Tag.Result) :=
  (⟨n, ks.map fun k => (k, .fetching), none⟩, ks.map fun k => ⟨.fetch n k, fetch w k⟩)

def lift (n : Nat) (k : Coordinator.Kind) (s : Strand Batch.Tag.Result) : Strand Tag.Result :=
  ⟨.work n k s.tag, s.rest⟩

/-- A half ends. A failure is settled at once, success with the last half. -/
def endHalf (cs : List Cycle) (n : Nat) (k : Coordinator.Kind) (result : Except Fault Nat) :
    Reaction Tag.Result (List Cycle) :=
  let c := (find cs n).setHalf k (.ended result)
  let settles := match result with
    | .error _ => true
    | .ok _ => c.finished
  { state := put cs c, later := if settles then [⟨.settle n k, .done ()⟩] else [] }

def react (w : Worker) (now : Instant) (t : Tag) (result : t.Result) (cs : List Cycle) :
    Reaction Tag.Result (List Cycle) × List Signal :=
  match t, result with
  | .fetch n k, .error f => (endHalf cs n k (.error f), [])
  | .fetch n k, .ok raws =>
    if raws.isEmpty then (endHalf cs n k (.ok 0), [])
    else
      let b := batch w k raws
      ({ state := put cs ((find cs n).setHalf k (.working b))
         later := b.opening.map (lift n k) }, [])
  | .work n k t, result =>
    match (find cs n).half k with
    | .working b =>
      let x := Batch.plan now t result b
      ({ state := put cs ((find cs n).setHalf k (.working x.state))
         first := x.first.map (lift n k)
         later := x.later.map (lift n k) ++
           if x.state.finished then [⟨.tally n k, .done ()⟩] else [] }, [])
    | _ => ({ state := cs }, [])
  | .tally n k, _ =>
    let lines := w.console.batchExecuted k.plural ((find cs n).half k).count
    ({ state := cs, later := [⟨.conclude n k, Activity.print lines⟩] }, [])
  | .conclude n k, _ => (endHalf cs n k (.ok ((find cs n).half k).count), [])
  | .settle n k, _ =>
    let c := find cs n
    match c.outcome with
    | some _ => ({ state := cs }, [])
    | none =>
      ({ state := put cs { c with outcome := some (c.half k).outcome }
         later := [⟨.close n, .done ()⟩] }, [])
  | .close n, _ => ({ state := cs }, [.cycleEnded n ((find cs n).outcome.getD (.ok ()))])

def routine (w : Worker) : Routine Tag.Result (List Cycle) where
  begin n cs :=
    let (c, strands) := start n kinds w
    { state := cs ++ [c], later := strands }
  react := react w

def plan (w : Worker) : Plan Tag.Result (List Cycle) := fun now t r cs => (react w now t r cs).1

def crew (ks : List Coordinator.Kind) (w : Worker) (surroundings : σ) :
    Crew Tag.Result (List Cycle) σ :=
  let (c, strands) := start 1 ks w
  { ready := strands, state := [c], surroundings }

def settled (cs : List Cycle) : Bool := cs.all fun c => c.outcome.isSome

def runOnce (ks : List Coordinator.Kind) (w : Worker) (o : Outside σ)
    (fuel : Nat) (surroundings : σ) :
    Crew Tag.Result (List Cycle) σ :=
  Crew.runUntil (plan w) o settled fuel (crew ks w surroundings)

end Cycle
end TestWorker
