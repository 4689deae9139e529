import TestWorker.Coordinator
import TestWorker.Test

namespace TestWorker

structure Worker where
  settings : Settings
  console : Console
  equipment : Equipment
  deriving Repr

namespace Worker

/-- Delivers a result once. That the coordinator does not take it is printed, and no more. -/
def report (w : Worker) (k : Coordinator.Kind) (id : String) (result : Value) : Attempt Unit := do
  match ← liftM (Coordinator.deliver w.settings k id result).outcome with
  | .ok () => return ()
  | .error (.coordinator message) =>
    liftM (Activity.print (Console.error "Failed to send result"
      ("Could not report job " ++ id ++ " to the coordinator: " ++ message)))
  | .error f => throw f

def requestAction : Value → Action
  | .object es => .http "Http.request" es
  | _ => .http "Http.request" []

def executeRequest (w : Worker) (strict : Bool) (job : Wire.RequestJob) :
    Attempt ExecutionResult := do
  let c := Context.create job.testVariables job.envVariables
  let definition ← Attempt.ofExcept (Placeholder.resolve strict c (.object job.request))
  let (o, _) ← liftM ((requestAction definition).run w.equipment c)
  let result ← Attempt.ofExcept (ExecutionResult.ofOutcome o)
  liftM (Activity.print (w.console.jobResult "request" job.id o.success result.executionTime))
  let told : Wire.RequestResult := ⟨some result.response, result.executionTime⟩
  w.report .requests job.id told.dump
  return result

def stepsOf (job : Wire.TestJob) : List Step :=
  job.actions.map fun s => ⟨.text s.action, .object s.parameters⟩

def reportEntries (r : Report) : Entries :=
  match r.view with
  | .object es => es
  | _ => []

def executeTest (w : Worker) (strict : Bool) (job : Wire.TestJob) : Attempt Outcome := do
  let c := Context.create job.testVariables job.envVariables
  let (result, _) ← liftM (Test.process w.equipment strict (stepsOf job) c)
  let o ← Attempt.ofExcept result
  liftM (Activity.print (w.console.jobResult "test" job.id o.success o.time))
  let told : Wire.TestResult := ⟨o.success, o.reports.map reportEntries, o.time⟩
  w.report .tests job.id told.dump
  return o

def wired (model : String) (r : Except (List Wire.Issue) α) : Except Fault α :=
  r.mapError fun issues => .invalid (Wire.Issue.report model issues)

def execute (w : Worker) (k : Coordinator.Kind) (raw : Value) : Attempt Unit := do
  match k with
  | .requests =>
    let job ← Attempt.ofExcept (wired "RequestJob" (Wire.RequestJob.read raw))
    let _ ← w.executeRequest w.settings.strict job
  | .tests =>
    let job ← Attempt.ofExcept (wired "TestJob" (Wire.TestJob.read raw))
    let _ ← w.executeTest w.settings.strict job

def jobName : Value → String
  | .object es => ((Entries.get? es "id").getD (.text "?")).display
  | _ => "?"

def jobFailure (c : Console) (name : String) (f : Fault) : List Line :=
  Console.error "Job failed" ("Job " ++ name ++ " could not be executed: " ++ f.kind) ++ c.fault f

/-- Runs a job and keeps whatever ends it early from the other jobs. -/
def isolated (c : Console) (name : String) (job : Attempt Unit) : Activity Bool := do
  match ← job.outcome with
  | .ok () => return true
  | .error f =>
    Activity.print (jobFailure c name f)
    return false

end Worker
end TestWorker
