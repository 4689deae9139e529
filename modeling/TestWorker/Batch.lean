import TestWorker.Crew
import TestWorker.Fault

namespace TestWorker

/-- How far a job has come. -/
inductive Standing where
  | coming
  | waiting
  | working
  | ended (success : Bool)
  deriving DecidableEq, Repr

namespace Standing

def hasEnded : Standing → Bool
  | ended _ => true
  | _ => false

/-- Only a job that ran to its end is a success. -/
def success : Standing → Bool
  | ended s => s
  | _ => false

end Standing

structure Batch.Event where
  time : Instant
  job : Nat
  begins : Bool
  deriving DecidableEq, Repr

structure Batch where
  jobs : List (Activity Bool)
  standings : List Standing
  /-- Slots that nobody has; none where any number of jobs may run at once. -/
  free : Option Nat
  /-- Jobs that wait for a slot, the first to get one first. -/
  queue : List Nat := []
  /-- Starts and ends of jobs, the latest first. -/
  history : List Batch.Event := []

namespace Batch

/-- The number of slots that a setting asks for; none and zero set no bound. -/
def slots (concurrency : Option Int) : Except Fault (Option Nat) :=
  match concurrency with
  | none => .ok none
  | some n =>
    if n = 0 then .ok none
    else if n < 0 then .error (.badValue "Semaphore initial value must be >= 0")
    else .ok (some n.toNat)

def create (jobs : List (Activity Bool)) (slots : Option Nat) : Batch where
  jobs := jobs
  standings := jobs.map fun _ => .coming
  free := slots

def hasRoom (b : Batch) : Bool :=
  match b.free with
  | none => true
  | some n => 0 < n && b.queue.isEmpty

def take (b : Batch) : Batch := { b with free := b.free.map (· - 1) }

def setStanding (b : Batch) (i : Nat) (s : Standing) : Batch :=
  { b with standings := b.standings.set i s }

def finished (b : Batch) : Bool := b.standings.all Standing.hasEnded

def flags (b : Batch) : List Bool := b.standings.map Standing.success

/-- A job asks for a slot: whether it has one. -/
def arrive (i : Nat) (b : Batch) : Batch × Bool :=
  if b.hasRoom then (b.take.setStanding i .working, true)
  else ({ b.setStanding i .waiting with queue := b.queue ++ [i] }, false)

def start (now : Instant) (i : Nat) (b : Batch) : Batch :=
  { b with history := ⟨now, i, true⟩ :: b.history }

/-- A job has ended: the one that gets its slot. -/
def finish (now : Instant) (i : Nat) (success : Bool) (b : Batch) : Batch × Option Nat :=
  let b := { b.setStanding i (.ended success) with history := ⟨now, i, false⟩ :: b.history }
  match b.queue with
  | [] => ({ b with free := b.free.map (· + 1) }, none)
  | j :: queue => ({ b.setStanding j .working with queue }, some j)

inductive Tag where
  /-- A job comes and asks for a slot. -/
  | arrival (i : Nat)
  /-- A job that has waited goes to its slot. -/
  | entry (i : Nat)
  | job (i : Nat)
  deriving DecidableEq, Repr

def Tag.Result : Tag → Type
  | arrival _ | entry _ => Unit
  | job _ => Bool

/-- The strand of a job that has a slot. -/
def jobStrand (b : Batch) (i : Nat) : List (Strand Tag.Result) :=
  match b.jobs[i]? with
  | some job => [⟨.job i, job⟩]
  | none => []

/-- Every job comes, in order. -/
def opening (b : Batch) : List (Strand Tag.Result) :=
  (List.range b.jobs.length).map fun i => ⟨.arrival i, .done ()⟩

def plan : Plan Tag.Result Batch
  | now, .arrival i, _, b =>
    match b.arrive i with
    | (b, true) => { state := b.start now i, first := b.jobStrand i }
    | (b, false) => { state := b }
  | now, .entry i, _, b => { state := b.start now i, first := b.jobStrand i }
  | now, .job i, success, b =>
    match b.finish now i success with
    | (b, some j) => { state := b, later := [⟨.entry j, .done ()⟩] }
    | (b, none) => { state := b }

/-- How many jobs run and how many ran at once at most, by a history whose latest event comes
first. -/
def most : List Event → Nat × Nat
  | [] => (0, 0)
  | e :: past =>
    let (running, peak) := most past
    if e.begins then (running + 1, max peak (running + 1)) else (running - 1, peak)

end Batch
end TestWorker
