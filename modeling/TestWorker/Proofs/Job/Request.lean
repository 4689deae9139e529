import TestWorker.Proofs.Action.Request
import TestWorker.Proofs.Coordinator.Delivery
import TestWorker.Proofs.Placeholder.Substitute
import TestWorker.Rehearsal

namespace TestWorker
open Coordinator
variable {σ : Type}

def toldOfRequest (fields : Entries) (time : Double) : Value :=
  .object [("response", .object fields), ("executionTime", .float time)]

theorem refusal?_toldOfRequest (fields : Entries) (time : Double) :
    Json.refusal? (toldOfRequest fields time) = none ↔
      time.isFinite = true ∧ ∀ e ∈ fields, Json.refusal? e.2 = none := by
  rw [toldOfRequest, Json.refusal?_object]
  simp only [List.forall_mem_cons, Json.refusal?_object, Json.refusal?_float]
  constructor
  · intro h
    exact ⟨h.2.1, h.1⟩
  · intro h
    exact ⟨h.2, h.1, by simp⟩

theorem sendable_toldOfRequest {s : Settings} {id : String} {fields : Entries} {time : Double}
    {base : Web.Url} (hbase : Web.Url.parse s.baseUrl = .ok base) (habs : base.isAbsolute = true)
    (hid : PlainId id) :
    Sendable s .requests id (toldOfRequest fields time) ↔
      (s.baseUrl ++ "/api/location/request/" ++ id).length ≤ Web.Url.maxLength ∧
        (∀ h ∈ s.headers, Ascii h) ∧ time.isFinite = true ∧
        ∀ e ∈ fields, Json.refusal? e.2 = none := by
  have hurl : resultUrl s .requests id = s.baseUrl ++ "/api/location/request/" ++ id := by
    simp [resultUrl, Kind.path, String.append_assoc]
  rw [Sendable, address_iff hbase habs hid, refusal?_toldOfRequest, hurl]

namespace Worker

theorem executeRequest_outcome (w : Worker) (job : Wire.RequestJob) {es : Entries}
    (hes : Placeholder.substitute (Context.create job.testVariables job.envVariables)
      (.object job.request) = .object es) :
    (w.executeRequest false job).outcome =
      (Action.http "Http.request" es).run w.equipment
        (Context.create job.testVariables job.envVariables) >>= fun x =>
          match ExecutionResult.ofOutcome x.1 with
          | .error f => .done (.error f)
          | .ok result => (do
            liftM (Activity.print
              (w.console.jobResult "request" job.id x.1.success result.executionTime))
            w.report .requests job.id
              (⟨some result.response, result.executionTime⟩ : Wire.RequestResult).dump
            return result : Attempt ExecutionResult).outcome := by
  unfold executeRequest
  simp only [Placeholder.resolve, Bool.false_eq_true, if_false, hes]
  change (liftM ((Action.http "Http.request" es).run w.equipment _) >>= fun x =>
    (_ : Attempt ExecutionResult)).outcome = _
  rw [Attempt.outcome_bind, Attempt.outcome_liftM, Activity.bind_assoc]
  refine congrArg (bind _) (funext fun x => ?_)
  rw [Activity.done_bind]
  dsimp only
  rw [Attempt.outcome_bind, Attempt.outcome_ofExcept, Activity.done_bind]
  cases ExecutionResult.ofOutcome x.1 <;> rfl

/-- The result is sent at most once, after the request, and the job comes to an end as soon as it
can be sent and its answer is taken. -/
theorem executeRequest_reports_once (w : Worker) (job : Wire.RequestJob) (o : Outside σ)
    (now : Instant) (s : σ) :
    ∃ es r response c ended left tail,
      Placeholder.substitute (Context.create job.testVariables job.envVariables)
        (.object job.request) = .object es ∧
      ((Action.http "Http.request" es).run w.equipment
        (Context.create job.testVariables job.envVariables)).run o now s =
          ((⟨[r], response⟩, c), ended, left) ∧
      (w.executeRequest false job).outcome.trace o now s =
        ((Action.http "Http.request" es).run w.equipment
          (Context.create job.testVariables job.envVariables)).trace o now s ++ tail ∧
      let fields := Action.toldFields es
        ((Action.HttpCall.received w.equipment.client es).run o now s).1
      ReportsOnce w.settings .requests job.id (toldOfRequest fields r.time)
        ⟨fields, some r.time⟩ tail
        ((w.executeRequest false job).outcome.run o now s).1 ∧
      ∀ base, Web.Url.parse w.settings.baseUrl = .ok base → base.isAbsolute = true →
        PlainId job.id → (Sendable w.settings .requests job.id (toldOfRequest fields r.time) ↔
          (w.settings.baseUrl ++ "/api/location/request/" ++ job.id).length ≤ Web.Url.maxLength ∧
            (∀ h ∈ w.settings.headers, Ascii h) ∧ r.time.isFinite = true ∧
            ∀ e ∈ fields, Json.refusal? e.2 = none) := by
  have hes := Placeholder.substitute_object (Context.create job.testVariables job.envVariables)
    job.request
  generalize (job.request.map fun e => (e.1, Placeholder.substitute _ e.2)) = es at hes
  have hresponse := Action.http_response w.equipment "Http.request" es
    (Context.create job.testVariables job.envVariables) o now s
  obtain ⟨r, hreports, -, -⟩ := (Action.run_settles w.equipment (.http "Http.request" es)
    (Context.create job.testVariables job.envVariables)).run o now s
  rw [executeRequest_outcome w job hes, Activity.run_bind, Activity.trace_bind]
  generalize hrun : ((Action.http "Http.request" es).run w.equipment
    (Context.create job.testVariables job.envVariables)).run o now s = y at hresponse hreports ⊢
  obtain ⟨⟨⟨reports, response⟩, c⟩, ended, left⟩ := y
  dsimp only at hresponse hreports ⊢
  subst hreports
  have hresult : ExecutionResult.ofOutcome ⟨[r], response⟩ =
      .ok ⟨Action.toldFields es ((Action.HttpCall.received w.equipment.client es).run o now s).1,
        some r.time⟩ := by
    rw [ExecutionResult.ofOutcome, hresponse, Action.projectResponse_responseOf]
    rfl
  rw [hresult]
  exact ⟨es, r, response, c, ended, left, _, hes, hrun, rfl,
    reportsOnce_run w .requests job.id _ _ _ o ended left rfl,
    fun base hbase habs hid => sendable_toldOfRequest hbase habs hid⟩

def plainWorker : Worker where
  settings := { secret := "secret", key := "key", baseUrl := "https://coordinator.test" }
  console := {}
  equipment := ⟨⟨some .targets, false⟩, []⟩

def sampleRequest : Wire.RequestJob where
  id := "t"
  request := [("url", .text "https://api.test/x")]

def notANumber : Rehearsal where
  script := { rules := [{ answer := .response 200 [] [78, 97, 78] }] }

/-- Only the target is asked; nothing is sent, and the job ends in a fault. -/
theorem executeRequest_notANumber :
    (∃ f, ((plainWorker.executeRequest false sampleRequest).outcome.run Rehearsal.outside 0
        notANumber).1 = .error f ∧ f.kind = "ValueError") ∧
      (exchanges ((plainWorker.executeRequest false sampleRequest).outcome.trace Rehearsal.outside 0
        notANumber)).map (·.1.method) = ["GET"] := by
  constructor
  · apply exists_error_of_kind
    decide +kernel
  · decide +kernel

end Worker
end TestWorker
