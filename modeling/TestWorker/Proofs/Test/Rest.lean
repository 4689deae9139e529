import TestWorker.Proofs.Test.Run

namespace TestWorker.Test
variable {σ : Type} {e : Equipment} {strict : Bool} {o : Outside σ}

/-- The progress with the outcomes of these evaluations added to it. -/
def Progress.after (p : Progress) (vs : List (Evaluation σ)) : Progress where
  reports := p.reports ++ reportsOf vs
  response := if (lastResponse (vs.map (·.outcome.response))).isNull then p.response
    else lastResponse (vs.map (·.outcome.response))

theorem Progress.after_nil (p : Progress) : p.after ([] : List (Evaluation σ)) = p := by
  simp [Progress.after]

theorem Progress.after_cons (p : Progress) (v : Evaluation σ) (vs : List (Evaluation σ)) :
    p.after (v :: vs) = (p.add v.outcome).after vs := by
  simp only [Progress.after, Progress.add, reportsOf_cons, List.append_assoc, List.map_cons,
    lastResponse_cons]
  congr 1
  split <;> simp [*]

theorem Progress.outcome_after (vs : List (Evaluation σ)) :
    (({} : Progress).after vs).outcome =
      ⟨reportsOf vs, lastResponse (vs.map (·.outcome.response))⟩ := by
  simp only [Progress.outcome, Progress.after, List.nil_append]
  generalize lastResponse _ = v
  congr 1
  cases v <;> rfl

section
variable {s : Step} {x y : Scene σ} {parameters : Value} {a : Action} {out : Outcome}

theorem runSteps_step (hp : Placeholder.resolve strict x.context s.parameters = .ok parameters)
    (hb : Action.build s.action parameters = .ok a)
    (hrun : (a.run e x.context).run o x.instant x.state = ((out, y.context), y.instant, y.state))
    (hout : out.success = true) (steps : List Step) (p : Progress) :
    (runSteps e strict (s :: steps) x.context p).run o x.instant x.state =
        (runSteps e strict steps y.context (p.add out)).run o y.instant y.state ∧
      (runSteps e strict (s :: steps) x.context p).trace o x.instant x.state =
        (a.run e x.context).trace o x.instant x.state ++
          (runSteps e strict steps y.context (p.add out)).trace o y.instant y.state := by
  rw [runSteps, hp]
  dsimp only
  rw [hb]
  dsimp only
  rw [Activity.run_bind, Activity.trace_bind, hrun]
  simp [hout]

theorem runSteps_failed (hp : Placeholder.resolve strict x.context s.parameters = .ok parameters)
    (hb : Action.build s.action parameters = .ok a)
    (hrun : (a.run e x.context).run o x.instant x.state = ((out, y.context), y.instant, y.state))
    (hout : out.success = false) (steps : List Step) (p : Progress) :
    (runSteps e strict (s :: steps) x.context p).run o x.instant x.state =
        ((.ok (p.add out).outcome, y.context), y.instant, y.state) ∧
      (runSteps e strict (s :: steps) x.context p).trace o x.instant x.state =
        (a.run e x.context).trace o x.instant x.state := by
  rw [runSteps, hp]
  dsimp only
  rw [hb]
  dsimp only
  rw [Activity.run_bind, Activity.trace_bind, hrun]
  simp [hout]

end

theorem runSteps_evaluated {first : List Step} {x y : Scene σ} {vs : List (Evaluation σ)}
    (h : Evaluations e strict o first x vs y) (hok : ∀ v ∈ vs, v.outcome.success = true)
    (rest : List Step) (p : Progress) :
    (runSteps e strict (first ++ rest) x.context p).run o x.instant x.state =
        (runSteps e strict rest y.context (p.after vs)).run o y.instant y.state ∧
      (runSteps e strict (first ++ rest) x.context p).trace o x.instant x.state =
        vs.flatMap (·.effects e o) ++
          (runSteps e strict rest y.context (p.after vs)).trace o y.instant y.state := by
  -- the progress is generalized, as each step leaves its report to the steps after it
  induction h generalizing p with
  | nil =>
    rw [Progress.after_nil]
    exact ⟨rfl, rfl⟩
  | @cons s steps x y z parameters a out vs hp hb hrun _ ih =>
    have hout : out.success = true := hok ⟨s, a, x, out, y⟩ (by simp)
    obtain ⟨hfirst, htrace⟩ := runSteps_step hp hb hrun hout (steps ++ rest) p
    obtain ⟨hrest, htrace'⟩ := ih (fun v hv => hok v (by simp [hv])) (p.add out)
    rw [List.cons_append, hfirst, htrace, hrest, htrace', Progress.after_cons]
    exact ⟨rfl, by simp [Evaluation.effects]⟩

/-- Every step before a given one was evaluated, and so was this one, from where they ended. -/
theorem Evaluations.of_append {first rest : List Step} {s : Step} {x z : Scene σ}
    {vs : List (Evaluation σ)} (h : Evaluations e strict o (first ++ s :: rest) x vs z) :
    ∃ ws v us parameters, vs = ws ++ v :: us ∧ Evaluations e strict o first x ws v.before ∧
      Placeholder.resolve strict v.before.context s.parameters = .ok parameters ∧
      Action.build s.action parameters = .ok v.action := by
  obtain ⟨ws, vs', rfl, rfl, hrest⟩ := List.map_eq_append_iff.1 h.map_step
  obtain ⟨⟨s, a, y, out, y'⟩, us, rfl, rfl, -⟩ := List.map_eq_cons_iff.1 hrest
  obtain ⟨hws, hv, -⟩ := h.around
  cases hv with
  | cons hp hb _ _ => exact ⟨ws, _, us, _, rfl, hws, hp, hb⟩

theorem exists_evaluations {steps : List Step} {x z : Scene σ} {p : Progress} {out : Outcome}
    (h : (runSteps e strict steps x.context p).run o x.instant x.state =
      ((.ok out, z.context), z.instant, z.state)) (hout : out.success = true) :
    ∃ vs, Evaluations e strict o steps x vs z ∧ ∀ v ∈ vs, v.outcome.success = true := by
  obtain ⟨k, vs, extra, -, hcourse, hreports, -⟩ := runSteps_course h
  rw [Outcome.success, hreports, List.all_append, Bool.and_eq_true] at hout
  obtain ⟨rfl, hok⟩ := hcourse.complete.1 hout.2
  have hall := hcourse.evaluated
  rw [List.take_length] at hall
  exact ⟨vs, hall, hok⟩

theorem process_of_validate (e : Equipment) (strict : Bool) (o : Outside σ) {steps : List Step}
    {x : Scene σ} (hne : steps ≠ []) (hv : validate x.context steps = .ok ()) :
    (process e strict steps x.context).run o x.instant x.state =
        (runSteps e strict steps x.context {}).run o x.instant x.state ∧
      (process e strict steps x.context).trace o x.instant x.state =
        ⟨x.instant, .clock, x.instant⟩ ::
          (runSteps e strict steps x.context {}).trace o x.instant x.state := by
  have hempty : steps.isEmpty = false := by simpa using hne
  unfold process
  simp only [hempty, hv, Bool.false_eq_true, if_false]
  constructor
  · rw [Activity.run_bind, Activity.run_now]
  · rw [Activity.trace_bind, Activity.trace_now, Activity.run_now, List.singleton_append]

theorem eq_of_ended {x z : Scene σ} {r r' : Except Fault Outcome}
    (h : ((r, x.context), x.instant, x.state) = ((r', z.context), z.instant, z.state)) :
    r = r' ∧ z = x := by
  simp only [Prod.mk.injEq] at h
  obtain ⟨⟨hr, hc⟩, ht, hs⟩ := h
  exact ⟨hr, Scene.ext hc.symm ht.symm hs.symm⟩

/-- Why a test evaluates no step after its first `k`, and what it tells of that. -/
inductive Ends (strict : Bool) (steps : List Step) (x z : Scene σ) (k : Nat)
    (vs : List (Evaluation σ)) : List Report → Prop
  | done (h : k = steps.length) : Ends strict steps x z k vs []
  | failed {v : Evaluation σ} (hv : v ∈ vs) (h : v.outcome.success = false) :
      Ends strict steps x z k vs []
  | refused {s : Step} {parameters : Value} {reason : Misconfiguration} (t : Double)
      (hs : steps[k]? = some s)
      (hp : Placeholder.resolve strict z.context s.parameters = .ok parameters)
      (hb : Action.build s.action parameters = .error (.misconfigured reason)) :
      Ends strict steps x z k vs [misconfigured reason.message t]
  | unfit {reason : Misconfiguration} (t : Double) (hk : k = 0)
      (hv : validate x.context steps = .error (.misconfigured reason)) :
      Ends strict steps x z k vs [misconfigured reason.message t]
  | empty (t : Double) (h : steps = []) :
      Ends strict steps x z k vs [misconfigured "Test has no actions" t]

theorem Course.ends {steps : List Step} {x z : Scene σ} {k : Nat} {vs : List (Evaluation σ)}
    {extra : List Report} (h : Course e strict o steps x z k vs extra) :
    Ends strict steps x z k vs extra := by
  -- with no failure to configure told, all steps have succeeded or the last one has failed
  rcases h.refused with rfl | ⟨s, parameters, reason, t, hs, hp, hb, rfl⟩
  · by_cases hok : ∀ v ∈ vs, v.outcome.success = true
    · have hall : (reportsOf vs ++ []).all (·.success) = true := by
        rw [List.append_nil, reportsOf, List.all_flatMap, List.all_eq_true]
        exact hok
      exact .done (h.complete.1 hall).1
    · obtain ⟨v, hv, hfailed⟩ : ∃ v ∈ vs, v.outcome.success ≠ true := by
        simpa using hok
      exact .failed hv (Bool.eq_false_iff.2 hfailed)
  · exact .refused t hs hp hb

/-- A test that comes to an outcome tells of all the steps that it evaluated and, after them, of one
failure to configure at most. But for what these steps do, it reads the clock. -/
theorem process_told {steps : List Step} {x z : Scene σ} {out : Outcome}
    (h : (process e strict steps x.context).run o x.instant x.state =
      ((.ok out, z.context), z.instant, z.state)) :
    ∃ k vs extra first last, Evaluations e strict o (steps.take k) x vs z ∧
      out.reports = reportsOf vs ++ extra ∧ Ends strict steps x z k vs extra ∧
      (process e strict steps x.context).trace o x.instant x.state =
        first ++ vs.flatMap (·.effects e o) ++ last ∧ ∀ m ∈ first ++ last, m.effect.isClock := by
  by_cases hne : steps = []
  · subst hne
    obtain ⟨hout, rfl⟩ := eq_of_ended h
    cases hout
    exact ⟨0, [], _, List.replicate 2 ⟨z.instant, .clock, z.instant⟩, [], .nil, rfl,
      .empty _ rfl, rfl, by simp [Effect.isClock]⟩
  have hempty : steps.isEmpty = false := by simpa using hne
  cases hv : validate x.context steps with
  | ok u =>
    obtain ⟨hrun, htrace⟩ := process_of_validate e strict o hne hv
    rw [hrun] at h
    obtain ⟨k, vs, extra, last, hcourse, hreports, -, hrest, hlast⟩ := runSteps_course h
    refine ⟨k, vs, extra, [⟨x.instant, .clock, x.instant⟩], last, hcourse.evaluated, hreports,
      hcourse.ends, ?_, ?_⟩
    · rw [htrace, hrest, List.singleton_append, List.cons_append]
    · simpa [Effect.isClock] using hlast
  | error f =>
    unfold process at h ⊢
    simp only [hempty, hv, Bool.false_eq_true, if_false] at h ⊢
    cases f with
    | misconfigured reason =>
      obtain ⟨hout, rfl⟩ := eq_of_ended h
      cases hout
      exact ⟨0, [], _, List.replicate 2 ⟨z.instant, .clock, z.instant⟩, [], .nil, rfl,
        .unfit _ rfl hv, rfl, by simp [Effect.isClock]⟩
    | _ => cases h

end TestWorker.Test
