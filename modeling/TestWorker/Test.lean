import TestWorker.Action

namespace TestWorker

structure Step where
  action : Value
  parameters : Value
  deriving Repr

namespace Test

def unfilled : Value → Bool
  | .text s => Placeholder.occursIn s
  | _ => false

/-- The dialect that the parameters of a step name, if they are a map. -/
def dialectOf : Value → Except Fault Value
  | .object es => .ok (Action.HttpCall.parameter es "dialect")
  | v => .error (.noOperation v.qualifiedKind "get")

/-- A dialect that an earlier step is to fill in is left for later. -/
def deferred (s : Step) (parameters : Value) : Except Fault Bool :=
  if (Action.recipe? s.action).isSome then (dialectOf parameters).map unfilled else .ok false

def validateStep (c : Context) (s : Step) : Except Fault Unit := do
  let parameters := Placeholder.substitute c s.parameters
  if ← deferred s parameters then return ()
  let _ ← Action.build s.action parameters

/-- Every step can be built with the variables that there are at the start. -/
def validate (c : Context) (steps : List Step) : Except Fault Unit := steps.forM (validateStep c)

def misconfigured (message : String) (time : Double) : Report :=
  { action := "Test.configure", success := false, summary := message, time }

structure Progress where
  reports : List Report := []
  response : Value := .null

def Progress.outcome (p : Progress) : Outcome := ⟨p.reports, p.response⟩

def Progress.add (p : Progress) (o : Outcome) : Progress where
  reports := p.reports ++ o.reports
  response := if o.response.isNull then p.response else o.response

/-- Runs steps up to the first that fails. Each is filled in with the variables that the steps
before it left. -/
def runSteps (e : Equipment) (strict : Bool) :
    List Step → Context → Progress → Activity (Except Fault Outcome × Context)
  | [], c, p => return (.ok p.outcome, c)
  | s :: steps, c, p =>
    match Placeholder.resolve strict c s.parameters with
    | .error f => return (.error f, c)
    | .ok parameters =>
      match Action.build s.action parameters with
      | .error (.misconfigured reason) => do
        let time ← Activity.since (← Activity.now)
        return (.ok (p.add ⟨[misconfigured reason.message time], .null⟩).outcome, c)
      | .error f => return (.error f, c)
      | .ok action => do
        let (o, c) ← action.run e c
        let p := p.add o
        if o.success then runSteps e strict steps c p else return (.ok p.outcome, c)

def process (e : Equipment) (strict : Bool) (steps : List Step) (c : Context) :
    Activity (Except Fault Outcome × Context) := do
  let started ← Activity.now
  if steps.isEmpty then
    return (.ok ⟨[misconfigured "Test has no actions" (← Activity.since started)], .null⟩, c)
  match validate c steps with
  | .error (.misconfigured reason) =>
    return (.ok ⟨[misconfigured reason.message (← Activity.since started)], .null⟩, c)
  | .error f => return (.error f, c)
  | .ok () => runSteps e strict steps c {}

end Test
end TestWorker
