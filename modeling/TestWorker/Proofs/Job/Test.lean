import TestWorker.Proofs.Coordinator.Delivery
import TestWorker.Proofs.Json.Strict
import TestWorker.Proofs.Test.Lenient
import TestWorker.Rehearsal

namespace TestWorker
open Coordinator
variable {σ : Type}

def toldOfTest (first : Report) (others : List Report) : Value := .object [
  ("success", .bool ((first :: others).all (·.success))),
  ("actionReports", .list ((first :: others).map Report.view)),
  ("executionTime", .float first.time)]

theorem dump_eq_toldOfTest (first : Report) (others : List Report) (response : Value) :
    let out : Outcome := ⟨first :: others, response⟩
    (⟨out.success, out.reports.map Worker.reportEntries, out.time⟩ : Wire.TestResult).dump =
      toldOfTest first others := by
  have hentries : (Value.object ∘ Worker.reportEntries) = Report.view := rfl
  simp only [Wire.TestResult.dump, toldOfTest, Outcome.success, List.map_map, hentries]
  rfl

theorem refusal?_view (r : Report) : Json.refusal? r.view = none ↔ r.time.isFinite = true := by
  rw [← Json.refusal?_float, Report.view, Json.refusal?_object]
  cases r.details <;> simp [Json.refusal?]

theorem refusal?_toldOfTest (first : Report) (others : List Report) :
    Json.refusal? (toldOfTest first others) = none ↔
      ∀ r ∈ first :: others, r.time.isFinite = true := by
  have hviews : Json.refusal? (.list ((first :: others).map Report.view)) = none ↔
      ∀ r ∈ first :: others, r.time.isFinite = true := by
    rw [Json.refusal?_list, List.forall_mem_map]
    exact forall_congr' fun r => imp_congr_right fun _ => refusal?_view r
  rw [toldOfTest, Json.refusal?_object]
  simp only [List.forall_mem_cons, hviews, Json.refusal?_float]
  constructor
  · intro h
    exact h.2.1
  · intro h
    exact ⟨rfl, h, h.1, by simp⟩

theorem sendable_toldOfTest {s : Settings} {id : String} {first : Report} {others : List Report}
    {base : Web.Url} (hbase : Web.Url.parse s.baseUrl = .ok base) (habs : base.isAbsolute = true)
    (hid : PlainId id) :
    Sendable s .tests id (toldOfTest first others) ↔
      (s.baseUrl ++ "/api/location/execution/" ++ id).length ≤ Web.Url.maxLength ∧
        (∀ h ∈ s.headers, Ascii h) ∧ ∀ r ∈ first :: others, r.time.isFinite = true := by
  have hurl : resultUrl s .tests id = s.baseUrl ++ "/api/location/execution/" ++ id := by
    simp [resultUrl, Kind.path, String.append_assoc]
  rw [Sendable, address_iff hbase habs hid, refusal?_toldOfTest, hurl]

namespace Worker

theorem executeTest_outcome (w : Worker) (strict : Bool) (job : Wire.TestJob) :
    (w.executeTest strict job).outcome =
      Test.process w.equipment strict (stepsOf job)
        (Context.create job.testVariables job.envVariables) >>= fun x => match x.1 with
      | .error f => .done (.error f)
      | .ok out => (do
        liftM (Activity.print (w.console.jobResult "test" job.id out.success out.time))
        w.report .tests job.id
          (⟨out.success, out.reports.map reportEntries, out.time⟩ : Wire.TestResult).dump
        return out : Attempt Outcome).outcome := by
  unfold executeTest
  rw [Attempt.outcome_bind, Attempt.outcome_liftM, Activity.bind_assoc]
  refine congrArg (bind _) (funext fun x => ?_)
  obtain ⟨r, c⟩ := x
  cases r <;> rfl

/-- The result is sent at most once, after the last step, and the job comes to an end as soon as it
can be sent and its answer is taken. -/
theorem executeTest_reports_once (w : Worker) (job : Wire.TestJob)
    (o : Outside σ) (now : Instant) (s : σ) :
    ∃ first others response c ended left tail,
      (Test.process w.equipment false (stepsOf job)
        (Context.create job.testVariables job.envVariables)).run o now s =
          ((.ok ⟨first :: others, response⟩, c), ended, left) ∧
      (w.executeTest false job).outcome.trace o now s =
        (Test.process w.equipment false (stepsOf job)
          (Context.create job.testVariables job.envVariables)).trace o now s ++ tail ∧
      ReportsOnce w.settings .tests job.id (toldOfTest first others)
        ⟨first :: others, response⟩ tail
        ((w.executeTest false job).outcome.run o now s).1 ∧
      (∀ base, Web.Url.parse w.settings.baseUrl = .ok base → base.isAbsolute = true →
        PlainId job.id → (Sendable w.settings .tests job.id (toldOfTest first others) ↔
          (w.settings.baseUrl ++ "/api/location/execution/" ++ job.id).length ≤ Web.Url.maxLength ∧
            (∀ h ∈ w.settings.headers, Ascii h) ∧
            ∀ r ∈ first :: others, r.time.isFinite = true)) := by
  have hprocess := (Test.process_lenient w.equipment job.actions
    (Context.create job.testVariables job.envVariables)).run o now s
  change ∃ out, ((Test.process w.equipment false (stepsOf job) _).run o now s).1.1 = .ok out ∧ _
    at hprocess
  -- the run of the test is one step of the job; all that is left of it is where it ended
  generalize hrun : (Test.process w.equipment false (stepsOf job)
    (Context.create job.testVariables job.envVariables)).run o now s = x at hprocess
  obtain ⟨⟨r, c⟩, ended, left⟩ := x
  obtain ⟨⟨reports, response⟩, rfl, hne⟩ := hprocess
  obtain ⟨first, others, rfl⟩ := List.exists_cons_of_ne_nil hne
  rw [executeTest_outcome, Activity.run_bind, Activity.trace_bind, hrun]
  refine ⟨first, others, response, c, ended, left, _, rfl, rfl, ?_,
    fun base hbase habs hid => sendable_toldOfTest hbase habs hid⟩
  dsimp only
  rw [dump_eq_toldOfTest first others response]
  exact reportsOnce_run w .tests job.id _ _ _ o ended left rfl

def sampleWorker : Worker where
  settings := { secret := "secret", key := "key", baseUrl := "https://coordinator.test" }
  console := {}
  equipment :=
    ⟨⟨some .targets, false⟩, [Provider.english "person" [Provider.sample "first_name" "Ann"]]⟩

def sampleTest : Wire.TestJob where
  id := "t"
  actions := [⟨"Faker.generate",
    [("category", .text "person"), ("function", .text "first_name")]⟩]

/-- The coordinator answers with an error whose text cannot be read: two letters are no UTF-16 that
starts with a mark. -/
def unreadable : Rehearsal where
  script := { rules := [{ answer := .response 500 [("content-type", "text/plain; charset=utf-16")]
                                      [97, 98] }] }

/-- The result is sent, the answer is not taken, and the job ends in a fault. -/
theorem executeTest_unreadable :
    ∃ f, ((sampleWorker.executeTest false sampleTest).outcome.run
      Rehearsal.outside 0 unreadable).1 = .error f ∧ f.kind = "UnicodeError" := by
  apply exists_error_of_kind
  decide +kernel

end Worker
end TestWorker
