import TestWorker.Job
import TestWorker.Proofs.Action.Alike

namespace TestWorker

namespace Test
variable {k : Clocks}

abbrev Alike (k : Clocks) (x y : Except Fault Outcome × Context) : Prop :=
  ExceptAlike (Outcome.Alike k) x.1 y.1 ∧ x.2 = y.2

theorem add_alike {p q : Progress} {o o' : Outcome} (h : p.outcome.Alike k q.outcome)
    (ho : o.Alike k o') :
    (p.add o).outcome.Alike k (q.add o').outcome := by
  have hresponse : p.response = q.response := h.response
  refine ⟨List.rel_append h.reports ho.reports, ?_⟩
  change (if o.response.isNull then p.response else o.response) =
    if o'.response.isNull then q.response else o'.response
  rw [ho.response, hresponse]

theorem misconfigured_alike (message : String) {x y : Double} (h : k.timed → x = y) :
    Outcome.Alike k ⟨[misconfigured message x], .null⟩ ⟨[misconfigured message y], .null⟩ := by
  have hreport : Report.Alike k (misconfigured message x) (misconfigured message y) :=
    ⟨rfl, rfl, rfl, rfl, h⟩
  exact Action.alike_of_reports hreport .null

theorem runSteps_alike (k : Clocks) {e : Equipment} (hclient : e.client.session ≠ some .coordinator)
    (strict : Bool) (steps : List Step) (c : Context) {p q : Progress}
    (h : p.outcome.Alike k q.outcome) :
    Activity.Alike k (Alike k) (runSteps e strict steps c p) (runSteps e strict steps c q) := by
  induction steps generalizing c p q with
  | nil => exact .done ⟨h, rfl⟩
  | cons s steps ih =>
    unfold runSteps
    cases Placeholder.resolve strict c s.parameters with
    | error f => exact .done ⟨rfl, rfl⟩
    | ok parameters =>
      dsimp only
      split
      · next reason _ =>
        refine Activity.alike_now.bind fun s t hst => ?_
        refine (Activity.alike_since hst).bind fun x y hxy => .done ⟨?_, rfl⟩
        exact add_alike h (misconfigured_alike reason.message hxy)
      · exact .done ⟨rfl, rfl⟩
      · next action _ =>
        refine (Action.run_alike k hclient action c).bind ?_
        rintro ⟨o, c⟩ ⟨o', _⟩ ⟨ho, rfl⟩
        dsimp only
        rw [ho.success]
        split
        · exact ih c (add_alike h ho)
        · exact .done ⟨add_alike h ho, rfl⟩

theorem process_alike (k : Clocks) {e : Equipment} (hclient : e.client.session ≠ some .coordinator)
    (strict : Bool) (steps : List Step) (c : Context) :
    Activity.Alike k (Alike k) (process e strict steps c) (process e strict steps c) := by
  unfold process
  refine Activity.alike_now.bind fun s t h => ?_
  split
  · refine (Activity.alike_since h).bind fun x y hxy => .done ⟨?_, rfl⟩
    exact misconfigured_alike _ hxy
  · split
    · refine (Activity.alike_since h).bind fun x y hxy => .done ⟨?_, rfl⟩
      exact misconfigured_alike _ hxy
    · exact .done ⟨rfl, rfl⟩
    · exact runSteps_alike k hclient strict steps c ⟨.nil, rfl⟩

end Test

-- no instance, which would change what simp makes of every activity
theorem Activity.lawfulMonad : LawfulMonad Activity := by
  refine .mk' _ (fun a => ?_) (fun _ _ => rfl) bind_assoc
  induction a with
  | done a => rfl
  | ask e next ih => exact congrArg (ask e) (funext ih)

/-- What a job tells at its end: its name for the coordinator, what is printed, and its result. -/
structure Told where
  id : String
  lines : List Line
  result : Value

namespace Worker

def evaluateRequest (w : Worker) (job : Wire.RequestJob) : Attempt Told := do
  let c := Context.create job.testVariables job.envVariables
  let definition ← Attempt.ofExcept (Placeholder.resolve w.settings.strict c (.object job.request))
  let (o, _) ← liftM ((requestAction definition).run w.equipment c)
  let result ← Attempt.ofExcept (ExecutionResult.ofOutcome o)
  return ⟨job.id, w.console.jobResult "request" job.id o.success result.executionTime,
    (⟨some result.response, result.executionTime⟩ : Wire.RequestResult).dump⟩

def evaluateTest (w : Worker) (job : Wire.TestJob) : Attempt Told := do
  let c := Context.create job.testVariables job.envVariables
  let (result, _) ← liftM (Test.process w.equipment w.settings.strict (stepsOf job) c)
  let o ← Attempt.ofExcept result
  return ⟨job.id, w.console.jobResult "test" job.id o.success o.time,
    (⟨o.success, o.reports.map reportEntries, o.time⟩ : Wire.TestResult).dump⟩

def evaluate (w : Worker) (k : Coordinator.Kind) (raw : Value) : Attempt Told :=
  match k with
  | .requests =>
    do w.evaluateRequest (← Attempt.ofExcept (wired "RequestJob" (Wire.RequestJob.read raw)))
  | .tests => do w.evaluateTest (← Attempt.ofExcept (wired "TestJob" (Wire.TestJob.read raw)))

def tell (w : Worker) (k : Coordinator.Kind) (told : Told) : Attempt Unit := do
  liftM (Activity.print told.lines)
  w.report k told.id told.result

theorem execute_eq (w : Worker) (k : Coordinator.Kind) (raw : Value) :
    w.execute k raw = w.evaluate k raw >>= w.tell k := by
  have := Activity.lawfulMonad
  cases k with
  | requests => simp [execute, evaluate, evaluateRequest, executeRequest, tell]
  | tests => simp [execute, evaluate, evaluateTest, executeTest, tell]

/-- Where the clocks go side by side, the same is told. -/
abbrev ToldAlike (k : Clocks) (x y : Told) : Prop := k.timed → x = y

theorem ofOutcome_alike {k : Clocks} {o o' : Outcome} (h : o.Alike k o') :
    ExceptAlike (fun x y => k.timed → x = y) (ExecutionResult.ofOutcome o)
      (ExecutionResult.ofOutcome o') := by
  unfold ExecutionResult.ofOutcome
  rw [h.response]
  cases projectResponse o'.response with
  | error f => rfl
  | ok response =>
    intro htimed
    rw [h.eq htimed]

theorem evaluateRequest_alike (k : Clocks) {w : Worker}
    (hclient : w.equipment.client.session ≠ some .coordinator) (job : Wire.RequestJob) :
    Attempt.Alike k (ToldAlike k) (w.evaluateRequest job) (w.evaluateRequest job) := by
  unfold evaluateRequest
  refine (Attempt.alike_ofExcept k _).bind_eq fun definition => ?_
  refine (Attempt.Alike.lift (Action.run_alike k hclient (requestAction definition) _)).bind ?_
  rintro ⟨o, c⟩ ⟨o', _⟩ ⟨ho, rfl⟩
  refine Attempt.Alike.bind (R := fun x y => k.timed → x = y) ?_ fun x y hxy =>
    .pure fun htimed => ?_
  · rw [Attempt.Alike, Attempt.outcome_ofExcept, Attempt.outcome_ofExcept]
    exact .done (ofOutcome_alike ho)
  · obtain rfl : o = o' := ho.eq htimed
    rw [hxy htimed]

theorem evaluateTest_alike (k : Clocks) {w : Worker}
    (hclient : w.equipment.client.session ≠ some .coordinator) (job : Wire.TestJob) :
    Attempt.Alike k (ToldAlike k) (w.evaluateTest job) (w.evaluateTest job) := by
  unfold evaluateTest
  refine (Attempt.Alike.lift (Test.process_alike k hclient w.settings.strict (stepsOf job) _)).bind
    ?_
  rintro ⟨x, c⟩ ⟨y, _⟩ ⟨hxy, rfl⟩
  refine Attempt.Alike.bind (R := Outcome.Alike k) ?_ fun o o' ho => .pure fun htimed => ?_
  · rw [Attempt.Alike, Attempt.outcome_ofExcept, Attempt.outcome_ofExcept]
    exact .done hxy
  · rw [ho.eq htimed]

theorem evaluate_alike (k : Clocks) {w : Worker}
    (hclient : w.equipment.client.session ≠ some .coordinator)
    (kind : Coordinator.Kind) (raw : Value) :
    Attempt.Alike k (ToldAlike k) (w.evaluate kind raw) (w.evaluate kind raw) := by
  cases kind with
  | requests =>
    exact (Attempt.alike_ofExcept k _).bind_eq fun job => evaluateRequest_alike k hclient job
  | tests =>
    exact (Attempt.alike_ofExcept k _).bind_eq fun job => evaluateTest_alike k hclient job

end Worker
end TestWorker
