import TestWorker.Proofs.Placeholder.Strict
import TestWorker.Proofs.Test.Lenient
import TestWorker.Proofs.Test.Rest

namespace TestWorker.Test
open Placeholder (documentTokens unbound)
variable {σ : Type} {e : Equipment} {o : Outside σ}

/-- The strict run ends before the step at `k`, for want of the variable that the token names. -/
structure Halts (e : Equipment) (o : Outside σ) (steps : List Step) (x : Scene σ) (k : Nat)
    (vs : List (Evaluation σ)) (y : Scene σ) (s : Step) (t : Placeholder.Token) : Prop where
  reached : steps[k]? = some s
  strictly : Evaluations e true o (steps.take k) x vs y
  leniently : Evaluations e false o (steps.take k) x vs y
  succeeded : ∀ v ∈ vs, v.outcome.success = true
  missing : (documentTokens s.parameters).find? (unbound y.context) = some t

section
variable {steps : List Step} {x y : Scene σ} {k : Nat} {vs : List (Evaluation σ)} {s : Step}
  {t : Placeholder.Token}

theorem Halts.eq_append (h : Halts e o steps x k vs y s t) :
    steps = steps.take k ++ s :: steps.drop (k + 1) := by
  obtain ⟨hk, hs⟩ := List.getElem?_eq_some_iff.1 h.reached
  rw [← hs, ← List.drop_eq_getElem_cons hk, List.take_append_drop]

theorem Halts.resolve (h : Halts e o steps x k vs y s t) :
    Placeholder.resolve true y.context s.parameters = .error (.unresolved t.name) := by
  change Placeholder.substituteStrict _ _ = _
  rw [Placeholder.substituteStrict_eq, h.missing]
  rfl

theorem Halts.run_strict (h : Halts e o steps x k vs y s t) (p : Progress) :
    (runSteps e true steps x.context p).run o x.instant x.state =
        ((.error (.unresolved t.name), y.context), y.instant, y.state) ∧
      (runSteps e true steps x.context p).trace o x.instant x.state =
        vs.flatMap (·.effects e o) := by
  obtain ⟨hrun, htrace⟩ := runSteps_evaluated h.strictly h.succeeded (s :: steps.drop (k + 1)) p
  rw [← h.eq_append, runSteps, h.resolve] at hrun htrace
  exact ⟨hrun, htrace.trans (List.append_nil _)⟩

theorem Halts.run_lenient (h : Halts e o steps x k vs y s t) (p : Progress) :
    (runSteps e false steps x.context p).run o x.instant x.state =
        (runSteps e false (steps.drop k) y.context (p.after vs)).run o y.instant y.state ∧
      (runSteps e false steps x.context p).trace o x.instant x.state =
        vs.flatMap (·.effects e o) ++
          (runSteps e false (steps.drop k) y.context (p.after vs)).trace o y.instant y.state := by
  have hrest := runSteps_evaluated h.leniently h.succeeded (steps.drop k) p
  rwa [List.take_append_drop] at hrest

theorem Halts.cons {s' : Step} {w : Scene σ} {parameters : Value} {a : Action} {out : Outcome}
    (h : Halts e o steps x k vs y s t)
    (hstrict : Placeholder.resolve true w.context s'.parameters = .ok parameters)
    (hlenient : Placeholder.resolve false w.context s'.parameters = .ok parameters)
    (hb : Action.build s'.action parameters = .ok a)
    (hrun : (a.run e w.context).run o w.instant w.state = ((out, x.context), x.instant, x.state))
    (hout : out.success = true) :
    Halts e o (s' :: steps) w (k + 1) (⟨s', a, w, out, x⟩ :: vs) y s t where
  reached := h.reached
  strictly := .cons hstrict hb hrun h.strictly
  leniently := .cons hlenient hb hrun h.leniently
  succeeded := by simpa [hout] using h.succeeded
  missing := h.missing

end

/-- The induction is on the steps that are left: as long as no variable is missing, both runs come
to the next step in the same scene and with the same progress. -/
theorem runSteps_agree_or_halt (steps : List Step) (x : Scene σ) (p : Progress) :
    ((runSteps e true steps x.context p).run o x.instant x.state =
        (runSteps e false steps x.context p).run o x.instant x.state ∧
      (runSteps e true steps x.context p).trace o x.instant x.state =
        (runSteps e false steps x.context p).trace o x.instant x.state) ∨
    ∃ k vs y s t, Halts e o steps x k vs y s t := by
  induction steps generalizing x p with
  | nil => exact .inl ⟨rfl, rfl⟩
  | cons s steps ih =>
    rcases Placeholder.resolve_true x.context s.parameters with hsame | ⟨t, ht, -⟩
    · have hlenient : Placeholder.resolve false x.context s.parameters =
        .ok (Placeholder.substitute x.context s.parameters) := rfl
      have hstrict := hsame.trans hlenient
      cases hb : Action.build s.action (Placeholder.substitute x.context s.parameters) with
      | error f =>
        left
        rw [runSteps, runSteps, hstrict, hlenient]
        dsimp only
        rw [hb]
        exact ⟨by cases f <;> rfl, by cases f <;> rfl⟩
      | ok a =>
        -- both runs take this one evaluation, which knows of no mode
        obtain ⟨⟨⟨out, c⟩, i, w⟩, hrun⟩ : ∃ r, (a.run e x.context).run o x.instant x.state = r :=
          ⟨_, rfl⟩
        have hrun' : (a.run e x.context).run o x.instant x.state =
          ((out, (⟨c, i, w⟩ : Scene σ).context), i, w) := hrun
        cases hout : out.success with
        | false =>
          obtain ⟨h1, h2⟩ := runSteps_failed hstrict hb hrun' hout steps p
          obtain ⟨h3, h4⟩ := runSteps_failed hlenient hb hrun' hout steps p
          exact .inl ⟨h1.trans h3.symm, h2.trans h4.symm⟩
        | true =>
          obtain ⟨h1, h2⟩ := runSteps_step hstrict hb hrun' hout steps p
          obtain ⟨h3, h4⟩ := runSteps_step hlenient hb hrun' hout steps p
          rcases ih ⟨c, i, w⟩ (p.add out) with ⟨hrest, htrace⟩ | ⟨k, vs, y, s', t, h⟩
          · left
            rw [h1, h2, h3, h4, hrest, htrace]
            exact ⟨rfl, rfl⟩
          · exact .inr ⟨k + 1, _, y, s', t, h.cons hstrict hlenient hb hrun' hout⟩
    · exact .inr ⟨0, [], x, s, t, rfl, .nil, .nil, by simp, ht⟩

theorem process_agree_or_halt (e : Equipment) (o : Outside σ) (steps : List Step) (x : Scene σ) :
    ((process e true steps x.context).run o x.instant x.state =
        (process e false steps x.context).run o x.instant x.state ∧
      (process e true steps x.context).trace o x.instant x.state =
        (process e false steps x.context).trace o x.instant x.state) ∨
    (steps ≠ [] ∧ validate x.context steps = .ok ()) ∧
      ∃ k vs y s t, Halts e o steps x k vs y s t := by
  by_cases hne : steps = []
  · subst hne
    exact .inl ⟨rfl, rfl⟩
  cases hv : validate x.context steps with
  | error f =>
    have hempty : steps.isEmpty = false := by simpa using hne
    left
    unfold process
    simp only [hempty, hv, Bool.false_eq_true, if_false]
    exact ⟨by cases f <;> rfl, by cases f <;> rfl⟩
  | ok u =>
    obtain ⟨h1, h2⟩ := process_of_validate e true o hne hv
    obtain ⟨h3, h4⟩ := process_of_validate e false o hne hv
    rcases runSteps_agree_or_halt (e := e) (o := o) steps x {} with ⟨hrun, htrace⟩ | h
    · left
      rw [h1, h2, h3, h4, hrun, htrace]
      exact ⟨rfl, rfl⟩
    · exact .inr ⟨⟨hne, rfl⟩, h⟩

/-- A strict test comes to the outcome of the lenient one and does the same, or it ends in the fault
about an unresolved placeholder when the turn of some step comes. The steps before it are then
evaluated alike in both, the lenient run goes on with it, and the fault names the first token of its
raw parameters, in the order of the document, that has no variable. -/
theorem process_strict (e : Equipment) (o : Outside σ) (steps : List Wire.TestStep) (x : Scene σ) :
    ((∃ out, ((process e true (steps.map (·.step)) x.context).run
        o x.instant x.state).1.1 = .ok out) ∧
      (process e true (steps.map (·.step)) x.context).run o x.instant x.state =
        (process e false (steps.map (·.step)) x.context).run o x.instant x.state ∧
      (process e true (steps.map (·.step)) x.context).trace o x.instant x.state =
        (process e false (steps.map (·.step)) x.context).trace o x.instant x.state) ∨
    ∃ k s vs y t, steps[k]? = some s ∧
      Evaluations e true o ((steps.map (·.step)).take k) x vs y ∧
      Evaluations e false o ((steps.map (·.step)).take k) x vs y ∧
      (∀ v ∈ vs, v.outcome.success = true) ∧
      (documentTokens (.object s.parameters)).find? (unbound y.context) = some t ∧
      (process e true (steps.map (·.step)) x.context).run o x.instant x.state =
        ((.error (.unresolved t.name), y.context), y.instant, y.state) ∧
      (process e true (steps.map (·.step)) x.context).trace o x.instant x.state =
        ⟨x.instant, .clock, x.instant⟩ :: vs.flatMap (·.effects e o) ∧
      (process e false (steps.map (·.step)) x.context).run o x.instant x.state =
        (runSteps e false ((steps.map (·.step)).drop k) y.context (Progress.after {} vs)).run o
          y.instant y.state ∧
      (process e false (steps.map (·.step)) x.context).trace o x.instant x.state =
        (process e true (steps.map (·.step)) x.context).trace o x.instant x.state ++
          (runSteps e false ((steps.map (·.step)).drop k) y.context (Progress.after {} vs)).trace o
            y.instant y.state := by
  have hlenient := process_lenient e steps x.context
  rcases process_agree_or_halt e o (steps.map (·.step)) x with
    ⟨hrun, htrace⟩ | ⟨⟨hne, hv⟩, k, vs, y, s, t, h⟩
  · left
    obtain ⟨out, hout, -⟩ := hlenient.run o x.instant x.state
    exact ⟨⟨out, hrun ▸ hout⟩, hrun, htrace⟩
  right
  have hreached := h.reached
  rw [List.getElem?_map, Option.map_eq_some_iff] at hreached
  obtain ⟨s, hs, rfl⟩ := hreached
  obtain ⟨h1, h2⟩ := process_of_validate e true o hne hv
  obtain ⟨h3, h4⟩ := process_of_validate e false o hne hv
  obtain ⟨hstrict, htrace⟩ := h.run_strict {}
  obtain ⟨hrest, htrace'⟩ := h.run_lenient {}
  refine ⟨k, s, vs, y, t, hs, h.strictly, h.leniently, h.succeeded, h.missing, ?_, ?_, ?_, ?_⟩
  · rw [h1, hstrict]
  · rw [h2, htrace]
  · rw [h3, hrest]
  · rw [h4, h2, htrace, htrace', List.cons_append]

end TestWorker.Test
