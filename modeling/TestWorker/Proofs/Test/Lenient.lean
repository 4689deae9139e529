import TestWorker.Proofs.Action.Evaluation
import TestWorker.Proofs.Test.Validation

namespace TestWorker.Test

theorem validate_ok_or_misconfigured (c : Context) (steps : List Wire.TestStep) :
    validate c (steps.map (·.step)) = .ok () ∨
      ∃ reason, validate c (steps.map (·.step)) = .error (.misconfigured reason) := by
  by_cases h : ∃ s ∈ steps, Rejected c s
  · obtain ⟨before, s, after, rfl, hbefore, hs⟩ := exists_first_rejected h
    exact .inr ⟨_, validate_of_rejected after hbefore hs⟩
  · exact .inl (validate_of_not_rejected fun s hs hr => h ⟨s, hs, hr⟩)

theorem build_ok_or_misconfigured (c : Context) (s : Wire.TestStep) :
    ∃ parameters, Placeholder.resolve false c s.step.parameters = .ok parameters ∧
      ((∃ a, Action.build s.step.action parameters = .ok a) ∨
        ∃ reason, Action.build s.step.action parameters = .error (.misconfigured reason)) := by
  obtain ⟨es, hes, -⟩ := substitute_parameters c s
  refine ⟨.object es, by simp [Placeholder.resolve, hes], ?_⟩
  by_cases h : Action.Refused s.action (Action.HttpCall.parameter es "dialect")
  · exact .inr ⟨_, Action.build_of_refused h⟩
  · exact .inl (Action.build_of_not_refused h)

theorem runSteps_lenient (e : Equipment) (steps : List Wire.TestStep) (c : Context) (p : Progress)
    (h : p.reports ≠ [] ∨ steps ≠ []) :
    (runSteps e false (steps.map (·.step)) c p).Yields fun x =>
      ∃ out, x.1 = .ok out ∧ out.reports ≠ [] := by
  induction steps generalizing c p with
  | nil => exact ⟨_, rfl, h.resolve_right (by simp)⟩
  | cons s steps ih =>
    obtain ⟨parameters, hp, ⟨a, ha⟩ | ⟨reason, hr⟩⟩ := build_ok_or_misconfigured c s
    · rw [List.map_cons, runSteps, hp]
      dsimp only
      rw [ha]
      simp only [Activity.yields_bind]
      refine (Action.run_settles e a c).mono fun x hx => ?_
      obtain ⟨r, hr, -, -⟩ := hx
      have hadd : (p.add x.1).reports ≠ [] := by simp [Progress.add, hr]
      split
      · exact ih _ _ (.inl hadd)
      · exact ⟨_, rfl, hadd⟩
    · rw [List.map_cons, runSteps, hp]
      dsimp only
      rw [hr]
      simp only [Activity.yields_bind, Activity.yields_now, Activity.yields_since]
      intro t t'
      exact ⟨_, rfl, by simp [Progress.add, Progress.outcome]⟩

theorem process_lenient (e : Equipment) (steps : List Wire.TestStep) (c : Context) :
    (process e false (steps.map (·.step)) c).Yields fun x =>
      ∃ out, x.1 = .ok out ∧ out.reports ≠ [] := by
  simp only [process, Activity.yields_bind, Activity.yields_now]
  intro started
  split
  · simp
  · rename_i hne
    rcases validate_ok_or_misconfigured c steps with hv | ⟨reason, hv⟩
    · rw [hv]
      exact runSteps_lenient e steps c {} (.inr (by simpa using hne))
    · rw [hv]
      simp

end TestWorker.Test
