import TestWorker.Proofs.Job.Test
import TestWorker.Proofs.Test.Strict

namespace TestWorker.Worker
open Coordinator
open Placeholder (documentTokens unbound)
variable {σ : Type} {w : Worker} {strict : Bool} {job : Wire.TestJob} {o : Outside σ}

def startOf (job : Wire.TestJob) (now : Instant) (s : σ) : Test.Scene σ :=
  ⟨Context.create job.testVariables job.envVariables, now, s⟩

section
variable {x z : Test.Scene σ} (hx : x.context = Context.create job.testVariables job.envVariables)
include hx

/-- An outcome is reported, after all that the test itself does. -/
theorem executeTest_of_ok {out : Outcome}
    (h : (Test.process w.equipment strict (stepsOf job) x.context).run o x.instant x.state =
      ((.ok out, z.context), z.instant, z.state)) (hne : out.reports ≠ []) :
    ∃ first others tail, out.reports = first :: others ∧
      (w.executeTest strict job).outcome.trace o x.instant x.state =
        (Test.process w.equipment strict (stepsOf job) x.context).trace
          o x.instant x.state ++ tail ∧
      ReportsOnce w.settings .tests job.id (toldOfTest first others) out tail
        ((w.executeTest strict job).outcome.run o x.instant x.state).1 := by
  obtain ⟨reports, response⟩ := out
  obtain ⟨first, others, rfl⟩ := List.exists_cons_of_ne_nil hne
  rw [executeTest_outcome, ← hx, Activity.run_bind, Activity.trace_bind, h]
  refine ⟨first, others, _, rfl, rfl, ?_⟩
  dsimp only
  rw [dump_eq_toldOfTest first others response]
  exact reportsOnce_run w .tests job.id _ _ _ o z.instant z.state rfl

theorem executeTest_of_error {f : Fault}
    (h : (Test.process w.equipment strict (stepsOf job) x.context).run o x.instant x.state =
      ((.error f, z.context), z.instant, z.state)) :
    (w.executeTest strict job).outcome.run o x.instant x.state = (.error f, z.instant, z.state) ∧
      (w.executeTest strict job).outcome.trace o x.instant x.state =
        (Test.process w.equipment strict (stepsOf job) x.context).trace o x.instant x.state := by
  rw [executeTest_outcome, ← hx, Activity.run_bind, Activity.trace_bind, h]
  exact ⟨rfl, List.append_nil _⟩

end

/-- In a strict job all that was evaluated is told in one result, also where a later step cannot be
built, unless the next step to be filled in has a token without a variable: then the job ends in the
fault about it, and nothing is sent. -/
theorem executeTest_strict (w : Worker) (job : Wire.TestJob)
    (o : Outside σ) (now : Instant) (s : σ) :
    ∃ k vs y first last,
      Test.Evaluations w.equipment true o ((stepsOf job).take k) (startOf job now s) vs y ∧
      (∀ m ∈ first ++ last, m.effect.isClock) ∧
      ((∃ r others extra response tail, r :: others = Test.reportsOf vs ++ extra ∧
          Test.Ends true (stepsOf job) (startOf job now s) y k vs extra ∧
          (w.executeTest true job).outcome.trace o now s =
            first ++ vs.flatMap (·.effects w.equipment o) ++ last ++ tail ∧
          ReportsOnce w.settings .tests job.id (toldOfTest r others) ⟨r :: others, response⟩ tail
            ((w.executeTest true job).outcome.run o now s).1 ∧
          ∀ base, Web.Url.parse w.settings.baseUrl = .ok base → base.isAbsolute = true →
            PlainId job.id → (Sendable w.settings .tests job.id (toldOfTest r others) ↔
              (w.settings.baseUrl ++ "/api/location/execution/" ++ job.id).length ≤
                  Web.Url.maxLength ∧
                (∀ h ∈ w.settings.headers, Ascii h) ∧
                ∀ r' ∈ r :: others, r'.time.isFinite = true)) ∨
        ∃ step t, (stepsOf job)[k]? = some step ∧ (∀ v ∈ vs, v.outcome.success = true) ∧
          (documentTokens step.parameters).find? (unbound y.context) = some t ∧
          (w.executeTest true job).outcome.run o now s =
            (.error (.unresolved t.name), y.instant, y.state) ∧
          (w.executeTest true job).outcome.trace o now s =
            first ++ vs.flatMap (·.effects w.equipment o) ++ last) := by
  rcases Test.process_agree_or_halt w.equipment o (stepsOf job) (startOf job now s) with
    ⟨hrun, -⟩ | ⟨⟨hne, hv⟩, k, vs, y, step, t, h⟩
  -- as the lenient test comes to an outcome, so does this one
  · obtain ⟨out, hout, hne⟩ := (Test.process_lenient w.equipment job.actions
      (startOf job now s).context).run o now s
    obtain ⟨⟨⟨result, c⟩, ended, left⟩, hlenient⟩ : ∃ x,
        (Test.process w.equipment false (stepsOf job) (startOf job now s).context).run
          o now s = x :=
      ⟨_, rfl⟩
    obtain rfl : result = .ok out := (congrArg (·.1.1) hlenient).symm.trans hout
    have hok : (Test.process w.equipment true (stepsOf job) (startOf job now s).context).run
        o now s =
        ((.ok out, (⟨c, ended, left⟩ : Test.Scene σ).context), ended, left) := hrun.trans hlenient
    obtain ⟨r, others, tail, hreports, htrace, honce⟩ := executeTest_of_ok
      (x := startOf job now s) rfl hok hne
    obtain ⟨k, vs, extra, first, last, hvs, htold, hends, heffects, hclock⟩ := Test.process_told
      (x := startOf job now s) hok
    obtain ⟨reports, response⟩ := out
    obtain rfl : reports = r :: others := hreports
    refine ⟨k, vs, _, first, last, hvs, hclock, .inl
      ⟨r, others, extra, response, tail, htold, hends, htrace.trans ?_, honce, ?_⟩⟩
    · rw [heffects]
    · intro base hbase habs hid
      exact sendable_toldOfTest hbase habs hid
  · obtain ⟨hprocess, hreads⟩ := Test.process_of_validate w.equipment true o hne hv
    obtain ⟨hstrict, heffects⟩ := h.run_strict {}
    obtain ⟨hrun, htrace⟩ :=
      executeTest_of_error (x := startOf job now s) rfl (hprocess.trans hstrict)
    refine ⟨k, vs, y, [⟨now, .clock, now⟩], [], h.strictly, by simp [Effect.isClock],
      .inr ⟨step, t, h.reached, h.succeeded, h.missing, hrun, htrace.trans ?_⟩⟩
    rw [hreads, heffects, List.append_nil]
    rfl

def unresolvedTest : Wire.TestJob where
  id := "t"
  actions := [⟨"Faker.generate", [("category", .text "person"), ("function", .text "first_name")]⟩,
    ⟨"Http.get", [("url", .text "https://api.test/\x7b\x7bmissing\x7d\x7d")]⟩]

/-- One action is evaluated and succeeds, and the job ends without any exchange. -/
theorem executeTest_unresolved :
    ∃ (vs : List (Test.Evaluation Rehearsal)) (y : Test.Scene Rehearsal),
      Test.Evaluations sampleWorker.equipment true Rehearsal.outside
        ((stepsOf unresolvedTest).take 1) (startOf unresolvedTest 0 {}) vs y ∧ vs.length = 1 ∧
      (∃ f, ((sampleWorker.executeTest true unresolvedTest).outcome.run Rehearsal.outside 0 {}).1 =
        .error f ∧ f.kind = "UnresolvedPlaceholderError") ∧
      exchanges ((sampleWorker.executeTest true unresolvedTest).outcome.trace
        Rehearsal.outside 0 {}) = [] := by
  obtain ⟨z, out, hout, hrun⟩ := Test.exists_scene_of_any (o := Rehearsal.outside)
    (x := startOf unresolvedTest 0 {})
    (a := Test.runSteps sampleWorker.equipment true ((stepsOf unresolvedTest).take 1)
      (startOf unresolvedTest (0 : Instant) ({} : Rehearsal)).context {})
    (p := Outcome.success) (by decide +kernel)
  obtain ⟨vs, hvs, -⟩ := Test.exists_evaluations hrun hout
  have hlen := congrArg List.length hvs.map_step
  rw [List.length_map] at hlen
  refine ⟨vs, z, hvs, hlen, ?_, ?_⟩
  · apply exists_error_of_kind
    decide +kernel
  · apply List.isEmpty_iff.1
    decide +kernel

end TestWorker.Worker
