import TestWorker.Proofs.Action.Evaluation
import TestWorker.Proofs.Test.Validation
import TestWorker.Rehearsal

namespace TestWorker.Test
variable {σ : Type} {e : Equipment} {strict : Bool} {o : Outside σ}

/-- Where a run stands between two steps. -/
@[ext]
structure Scene (σ : Type) where
  context : Context
  instant : Instant
  state : σ

/-- One step that was evaluated, the scenes before and after it, and what came of it. -/
structure Evaluation (σ : Type) where
  step : Step
  action : Action
  before : Scene σ
  outcome : Outcome
  after : Scene σ

def Evaluation.effects (e : Equipment) (o : Outside σ) (v : Evaluation σ) : List Moment :=
  (v.action.run e v.before.context).trace o v.before.instant v.before.state

/-- One report, under the name of the step. -/
def Evaluation.Told (v : Evaluation σ) : Prop :=
  ∃ r, v.outcome.reports = [r] ∧ v.step.action = .text r.action

def reportsOf (vs : List (Evaluation σ)) : List Report := vs.flatMap fun v => v.outcome.reports

/-- All of the steps were evaluated in order, from one scene to another. -/
inductive Evaluations (e : Equipment) (strict : Bool) (o : Outside σ) :
    List Step → Scene σ → List (Evaluation σ) → Scene σ → Prop
  | nil {x : Scene σ} : Evaluations e strict o [] x [] x
  | cons {s : Step} {steps : List Step} {x y z : Scene σ} {p : Value} {a : Action} {out : Outcome}
      {vs : List (Evaluation σ)} :
      Placeholder.resolve strict x.context s.parameters = .ok p → Action.build s.action p = .ok a →
      (a.run e x.context).run o x.instant x.state = ((out, y.context), y.instant, y.state) →
      Evaluations e strict o steps y vs z →
      Evaluations e strict o (s :: steps) x (⟨s, a, x, out, y⟩ :: vs) z

def lastResponse (responses : List Value) : Value :=
  (responses.reverse.find? fun v => !v.isNull).getD .null

theorem Evaluations.map_step {steps : List Step} {x z : Scene σ} {vs : List (Evaluation σ)}
    (h : Evaluations e strict o steps x vs z) : vs.map (·.step) = steps := by
  induction h with
  | nil => rfl
  | cons _ _ _ _ ih => rw [List.map_cons, ih]

/-- One of the evaluations, with those before it and those after it. -/
theorem Evaluations.around {steps : List Step} {x z : Scene σ} {before after : List (Evaluation σ)}
    {u : Evaluation σ} (h : Evaluations e strict o steps x (before ++ u :: after) z) :
    Evaluations e strict o (before.map (·.step)) x before u.before ∧
      Evaluations e strict o [u.step] u.before [u] u.after ∧
      Evaluations e strict o (after.map (·.step)) u.after after z := by
  induction before generalizing steps x with
  | nil =>
    cases h with
    | cons hp hb hrun h => exact ⟨.nil, .cons hp hb hrun .nil, h.map_step ▸ h⟩
  | cons w before ih =>
    cases h with
    | cons hp hb hrun h => exact (ih h).imp_left fun hbefore => .cons hp hb hrun hbefore

theorem Evaluations.le {steps : List Step} {x z : Scene σ} {vs : List (Evaluation σ)}
    (h : Evaluations e strict o steps x vs z) : ∀ v ∈ vs, x.instant ≤ v.before.instant := by
  induction h with
  | nil => simp
  | @cons s steps x y z p a out vs _ _ hrun _ ih =>
    intro v hv
    rcases List.mem_cons.1 hv with rfl | hv
    · exact Nat.le_refl _
    · have hle := Activity.le_run o (a.run e x.context) x.instant x.state
      rw [hrun] at hle
      exact Nat.le_trans hle (ih v hv)

theorem Evaluations.ordered {steps : List Step} {x z : Scene σ} {vs : List (Evaluation σ)}
    (h : Evaluations e strict o steps x vs z) :
    vs.Pairwise fun v w => v.after.instant ≤ w.before.instant := by
  induction h with
  | nil => exact List.Pairwise.nil
  | cons _ _ _ hrest ih => exact List.Pairwise.cons hrest.le ih

@[simp] theorem isNull_null : Value.null.isNull = true := rfl

@[simp] theorem lastResponse_nil : lastResponse [] = .null := rfl

theorem lastResponse_cons (v : Value) (vs : List Value) :
    lastResponse (v :: vs) = if (lastResponse vs).isNull then v else lastResponse vs := by
  unfold lastResponse
  rw [List.reverse_cons, List.find?_append]
  cases h : vs.reverse.find? fun v => !v.isNull with
  | none => cases v <;> rfl
  | some w =>
    have hw := List.find?_some h
    have hnull : w.isNull = false := by simpa using hw
    simp [hnull]

/-- The first step of what is left either cannot be built, or is evaluated. Where it fails, that is
the end. -/
theorem runSteps_cons {s : Step} {steps : List Step} {x z : Scene σ} {p : Progress} {out : Outcome}
    (h : (runSteps e strict (s :: steps) x.context p).run o x.instant x.state =
      ((.ok out, z.context), z.instant, z.state)) :
    ∃ parameters, Placeholder.resolve strict x.context s.parameters = .ok parameters ∧
      ((∃ reason t, Action.build s.action parameters = .error (.misconfigured reason) ∧ z = x ∧
        out = (p.add ⟨[misconfigured reason.message t], .null⟩).outcome ∧
        (runSteps e strict (s :: steps) x.context p).trace o x.instant x.state =
          [⟨x.instant, .clock, x.instant⟩, ⟨x.instant, .clock, x.instant⟩]) ∨
      ∃ a r y, Action.build s.action parameters = .ok a ∧
        (a.run e x.context).run o x.instant x.state = ((r, y.context), y.instant, y.state) ∧
        (r.success = true ∧
          (runSteps e strict steps y.context (p.add r)).run o y.instant y.state =
            ((.ok out, z.context), z.instant, z.state) ∧
          (runSteps e strict (s :: steps) x.context p).trace o x.instant x.state =
            (a.run e x.context).trace o x.instant x.state ++
              (runSteps e strict steps y.context (p.add r)).trace o y.instant y.state ∨
        r.success = false ∧ z = y ∧ out = (p.add r).outcome ∧
          (runSteps e strict (s :: steps) x.context p).trace o x.instant x.state =
            (a.run e x.context).trace o x.instant x.state)) := by
  -- only the first step is unfolded; the rest stays a run of `runSteps`
  generalize hbody : runSteps e strict (s :: steps) x.context p = body at h ⊢
  rw [runSteps] at hbody
  subst hbody
  split at h
  · cases h
  rename_i parameters hp
  refine ⟨parameters, hp, ?_⟩
  split at h
  · rename_i reason hb
    simp only [Activity.run_bind, Activity.run_now, Activity.run_since, Activity.run_pure,
      Prod.mk.injEq, Except.ok.injEq] at h
    obtain ⟨⟨hout, hc⟩, ht, hs⟩ := h
    refine .inl ⟨reason, _, hb, Scene.ext hc.symm ht.symm hs.symm, hout.symm, ?_⟩
    simp [Activity.trace_bind]
  · cases h
  · rename_i a hb
    rw [Activity.run_bind] at h
    rw [Activity.trace_bind]
    generalize hrun : (a.run e x.context).run o x.instant x.state = w at h ⊢
    obtain ⟨⟨r, c⟩, t, s⟩ := w
    refine .inr ⟨a, r, ⟨c, t, s⟩, hb, hrun, ?_⟩
    dsimp only at h ⊢
    split at h
    · rename_i hr
      exact .inl ⟨hr, h, by simp [hr]⟩
    · rename_i hr
      simp only [Activity.run_pure, Prod.mk.injEq, Except.ok.injEq] at h
      obtain ⟨⟨hout, hc⟩, ht, hs⟩ := h
      exact .inr ⟨by simpa using hr, Scene.ext hc.symm ht.symm hs.symm, hout.symm, by simp [hr]⟩

/-- The first `k` of the steps were evaluated, and these are their reports. Where the next one could
not be built, that is told in one report more. -/
structure Course (e : Equipment) (strict : Bool) (o : Outside σ) (steps : List Step) (x z : Scene σ)
    (k : Nat) (vs : List (Evaluation σ)) (extra : List Report) : Prop where
  bound : k ≤ steps.length
  evaluated : Evaluations e strict o (steps.take k) x vs z
  told : ∀ v ∈ vs, v.Told
  refused : extra = [] ∨ ∃ s parameters reason t, steps[k]? = some s ∧
    Placeholder.resolve strict z.context s.parameters = .ok parameters ∧
    Action.build s.action parameters = .error (.misconfigured reason) ∧
    extra = [misconfigured reason.message t]
  succeeded : ∀ r ∈ (reportsOf vs ++ extra).dropLast, r.success = true
  complete : (reportsOf vs ++ extra).all (·.success) = true ↔
    k = steps.length ∧ ∀ v ∈ vs, v.outcome.success = true

@[simp] theorem reportsOf_nil : reportsOf ([] : List (Evaluation σ)) = [] := rfl

@[simp] theorem reportsOf_cons (v : Evaluation σ) (vs : List (Evaluation σ)) :
    reportsOf (v :: vs) = v.outcome.reports ++ reportsOf vs := rfl

theorem told_of_run {s : Step} {x y : Scene σ} {parameters : Value} {a : Action} {out : Outcome}
    (hb : Action.build s.action parameters = .ok a)
    (hrun : (a.run e x.context).run o x.instant x.state = ((out, y.context), y.instant, y.state)) :
    (⟨s, a, x, out, y⟩ : Evaluation σ).Told := by
  obtain ⟨r, hr, hname, -⟩ := (Action.run_settles e a x.context).run o x.instant x.state
  rw [hrun] at hr
  exact ⟨r, hr, hname ▸ (Action.name_of_build hb).1⟩

theorem course_nil (x : Scene σ) : Course e strict o [] x x 0 [] [] where
  bound := Nat.le_refl _
  evaluated := .nil
  told := by simp
  refused := .inl rfl
  succeeded := by simp
  complete := by simp

theorem course_refused {s : Step} {steps : List Step} {x : Scene σ} {parameters : Value}
    {reason : Misconfiguration} (t : Double)
    (hp : Placeholder.resolve strict x.context s.parameters = .ok parameters)
    (hb : Action.build s.action parameters = .error (.misconfigured reason)) :
    Course e strict o (s :: steps) x x 0 [] [misconfigured reason.message t] where
  bound := Nat.zero_le _
  evaluated := .nil
  told := by simp
  refused := .inr ⟨s, parameters, reason, t, rfl, hp, hb, rfl⟩
  succeeded := by simp
  complete := by simp [misconfigured]

theorem course_failed {s : Step} {steps : List Step} {x y : Scene σ} {parameters : Value}
    {a : Action} {out : Outcome}
    (hp : Placeholder.resolve strict x.context s.parameters = .ok parameters)
    (hb : Action.build s.action parameters = .ok a)
    (hrun : (a.run e x.context).run o x.instant x.state = ((out, y.context), y.instant, y.state))
    (hout : out.success = false) :
    Course e strict o (s :: steps) x y 1 [⟨s, a, x, out, y⟩] [] := by
  have htold := told_of_run hb hrun
  obtain ⟨r, hr, -⟩ := htold
  dsimp only at hr
  refine ⟨by simp, ?_, by simpa using told_of_run hb hrun, .inl rfl, by simp [hr], ?_⟩
  · exact .cons hp hb hrun .nil
  · have hr' : r.success = false := by simpa [Outcome.success, hr] using hout
    simp [hr, hr', hout]

theorem Course.cons {s : Step} {steps : List Step} {x y z : Scene σ} {parameters : Value}
    {a : Action} {out : Outcome} {k : Nat} {vs : List (Evaluation σ)} {extra : List Report}
    (h : Course e strict o steps y z k vs extra)
    (hp : Placeholder.resolve strict x.context s.parameters = .ok parameters)
    (hb : Action.build s.action parameters = .ok a)
    (hrun : (a.run e x.context).run o x.instant x.state = ((out, y.context), y.instant, y.state))
    (hout : out.success = true) :
    Course e strict o (s :: steps) x z (k + 1) (⟨s, a, x, out, y⟩ :: vs) extra := by
  have htold := told_of_run hb hrun
  obtain ⟨r, hr, -⟩ := htold
  dsimp only at hr
  have hr' : r.success = true := by simpa [Outcome.success, hr] using hout
  refine ⟨by simpa using h.bound, .cons hp hb hrun h.evaluated, ?_, by simpa using h.refused,
    ?_, ?_⟩
  · simpa using ⟨told_of_run hb hrun, h.told⟩
  · rw [reportsOf_cons, hr, List.append_assoc, List.singleton_append]
    intro r' hmem
    cases hrest : reportsOf vs ++ extra with
    | nil => simp [hrest] at hmem
    | cons r'' rest =>
      rw [hrest, List.dropLast_cons_cons] at hmem
      rcases List.mem_cons.1 hmem with rfl | hmem
      · exact hr'
      · exact h.succeeded r' (hrest ▸ hmem)
  · rw [reportsOf_cons, hr, List.append_assoc, List.singleton_append, List.all_cons, hr',
      Bool.true_and, h.complete]
    simp [hout]

theorem runSteps_course {steps : List Step} {x z : Scene σ} {p : Progress} {out : Outcome}
    (h : (runSteps e strict steps x.context p).run o x.instant x.state =
      ((.ok out, z.context), z.instant, z.state)) :
    ∃ k vs extra last, Course e strict o steps x z k vs extra ∧
      out.reports = p.reports ++ (reportsOf vs ++ extra) ∧
      out.response = (if (lastResponse (vs.map (·.outcome.response))).isNull then p.response
        else lastResponse (vs.map (·.outcome.response))) ∧
      (runSteps e strict steps x.context p).trace o x.instant x.state =
        vs.flatMap (·.effects e o) ++ last ∧ ∀ m ∈ last, m.effect.isClock := by
  -- the progress is generalized, as the rest of the steps starts with the reports so far
  induction steps generalizing x p with
  | nil =>
    simp only [runSteps, Activity.run_pure, Prod.mk.injEq, Except.ok.injEq] at h
    obtain ⟨⟨rfl, hc⟩, ht, hs⟩ := h
    obtain rfl : z = x := Scene.ext hc.symm ht.symm hs.symm
    exact ⟨0, [], [], [], course_nil z, by simp [Progress.outcome],
      by simp [Progress.outcome], rfl, by simp⟩
  | cons s steps ih =>
    obtain ⟨parameters, hp, ⟨reason, t, hb, rfl, rfl, htrace⟩ | ⟨a, r, y, hb, hrun, hcase⟩⟩ :=
      runSteps_cons h
    · exact ⟨0, [], _, _, course_refused t hp hb, rfl, rfl, htrace, by simp [Effect.isClock]⟩
    · rcases hcase with ⟨hr, hrest, htrace⟩ | ⟨hr, rfl, rfl, htrace⟩
      · obtain ⟨k, vs, extra, last, hcourse, hreports, hresponse, hrest', hlast⟩ := ih hrest
        refine ⟨k + 1, _, extra, last, hcourse.cons hp hb hrun hr, ?_, ?_, ?_, hlast⟩
        · simp [hreports, Progress.add]
        · rw [hresponse, List.map_cons, lastResponse_cons]
          simp only [Progress.add]
          split <;> simp [*]
        · rw [htrace, hrest']
          simp [Evaluation.effects]
      · refine ⟨1, _, [], [], course_failed hp hb hrun hr, ?_, ?_, ?_, by simp⟩
        · simp [Progress.outcome, Progress.add]
        · simp [Progress.outcome, Progress.add, lastResponse_cons]
        · simp [htrace, Evaluation.effects]

/-- A run that comes to an outcome evaluates the first `k` steps, one after another, and its reports
are theirs, with at most one failure to configure after them. Nothing but the clock is asked for
besides. -/
theorem process_evaluates_prefix {steps : List Step} (hne : steps ≠ []) {x z : Scene σ}
    {out : Outcome} (h : (process e strict steps x.context).run o x.instant x.state =
      ((.ok out, z.context), z.instant, z.state)) :
    ∃ (k : Nat) (vs : List (Evaluation σ)) (extra : List Report), k ≤ steps.length ∧
      Evaluations e strict o (steps.take k) x vs z ∧ vs.map (·.step) = steps.take k ∧
      vs.Pairwise (fun v w => v.after.instant ≤ w.before.instant) ∧
      (∀ v ∈ vs, v.Told) ∧ out.reports = reportsOf vs ++ extra ∧
      (extra = [] ∨ ∃ r, extra = [r] ∧ r.action = "Test.configure" ∧ r.success = false) ∧
      (∀ r ∈ out.reports.dropLast, r.success = true) ∧
      (out.success = true ↔ k = steps.length ∧ ∀ v ∈ vs, v.outcome.success = true) ∧
      out.response = lastResponse (vs.map (·.outcome.response)) ∧
      ∃ first last, (process e strict steps x.context).trace o x.instant x.state =
        first ++ vs.flatMap (·.effects e o) ++ last ∧ ∀ m ∈ first ++ last, m.effect.isClock := by
  have hempty : steps.isEmpty = false := by simpa using hne
  unfold process at h ⊢
  simp only [hempty, Bool.false_eq_true, if_false, Activity.run_bind, Activity.run_now,
    Activity.trace_bind, Activity.trace_now] at h ⊢
  -- refused by the check, ended by a fault that is not told, or run
  split at h
  · rename_i reason hv
    simp only [Activity.run_bind, Activity.run_since, Activity.run_pure, Prod.mk.injEq,
      Except.ok.injEq] at h
    obtain ⟨⟨rfl, hc⟩, ht, hs⟩ := h
    obtain rfl : z = x := Scene.ext hc.symm ht.symm hs.symm
    refine ⟨0, [], _, Nat.zero_le _, .nil, rfl, .nil, by simp, rfl, .inr ⟨_, rfl, rfl, rfl⟩,
      by simp, ?_, rfl, _, [], by simp; rfl, ?_⟩
    · have hlen : 0 ≠ steps.length := fun h => hne (List.length_eq_zero_iff.1 h.symm)
      simp [Outcome.success, misconfigured, hlen]
    · simp [Activity.trace_bind, Effect.isClock]
  · cases h
  · obtain ⟨k, vs, extra, last, hcourse, hreports, hresponse, htrace, hlast⟩ := runSteps_course h
    rw [List.nil_append] at hreports
    refine ⟨k, vs, extra, hcourse.bound, hcourse.evaluated, hcourse.evaluated.map_step,
      hcourse.evaluated.ordered, hcourse.told, hreports, ?_, hreports ▸ hcourse.succeeded, ?_, ?_,
      [_], last, by rw [htrace, List.append_assoc], ?_⟩
    · rcases hcourse.refused with rfl | ⟨s, parameters, reason, t, -, -, -, rfl⟩
      · exact .inl rfl
      · exact .inr ⟨_, rfl, rfl, rfl⟩
    · rw [Outcome.success, hreports]
      exact hcourse.complete
    · rw [hresponse]
      split
      · rename_i hnull
        generalize lastResponse _ = v at hnull
        cases v <;> first | rfl | cases hnull
      · rfl
    · simpa [Effect.isClock] using hlast

theorem exists_scene_of_any {a : Activity (Except Fault Outcome × Context)} {x : Scene σ}
    {p : Outcome → Bool} (h : (a.run o x.instant x.state).1.1.toOption.any p = true) :
    ∃ (z : Scene σ) (out : Outcome), p out = true ∧
      a.run o x.instant x.state = ((.ok out, z.context), z.instant, z.state) := by
  generalize a.run o x.instant x.state = w at h ⊢
  obtain ⟨⟨r, c⟩, t, s⟩ := w
  cases r with
  | error f => cases h
  | ok out => exact ⟨⟨c, t, s⟩, out, h, rfl⟩

def sampleEquipment : Equipment :=
  ⟨⟨some .targets, false⟩, [Provider.english "person" [Provider.sample "first_name" "Ann"]]⟩

def sampleScene : Scene Rehearsal := ⟨{}, 0, {}⟩

def sampleSteps : List Step := [
  ⟨.text "Faker.generate", .object [("category", .text "person"), ("function", .text "first_name"),
    ("variable", .text "name")]⟩,
  ⟨.text "Faker.generate", .object []⟩, ⟨.text "Http.get", .object []⟩]

theorem process_evaluates_sample :
    ∃ (z : Scene Rehearsal) (out : Outcome) (k : Nat) (vs : List (Evaluation Rehearsal))
      (extra : List Report),
      (out.reports.map fun r => (r.action, r.success)) =
        [("Faker.generate", true), ("Faker.generate", false)] ∧
      Evaluations sampleEquipment false Rehearsal.outside (sampleSteps.take k) sampleScene vs z ∧
      out.reports = reportsOf vs ++ extra := by
  obtain ⟨z, out, hout, hrun⟩ := exists_scene_of_any (o := Rehearsal.outside) (x := sampleScene)
    (a := process sampleEquipment false sampleSteps sampleScene.context)
    (p := fun out => (out.reports.map fun r => (r.action, r.success)) ==
      [("Faker.generate", true), ("Faker.generate", false)])
    (by decide +kernel)
  obtain ⟨k, vs, extra, -, hvs, -, -, -, hreports, -⟩ :=
    process_evaluates_prefix (by decide) hrun
  exact ⟨z, out, k, vs, extra, by simpa using hout, hvs, hreports⟩

end TestWorker.Test
