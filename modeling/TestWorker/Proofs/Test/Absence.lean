import TestWorker.Proofs.Action.Absence
import TestWorker.Proofs.Test.Rest

namespace TestWorker

def Wire.TestStep.without (s : Wire.TestStep) (k : String) : Wire.TestStep :=
  { s with parameters := Entries.without s.parameters [k] }

namespace Test
variable {σ : Type} {e : Equipment} {strict : Bool} {o : Outside σ} {c : Context}
  {s : Wire.TestStep} {k : String}

/-- The step is filled in and built alike, with the parameter and without. -/
theorem runSteps_without (h : Action.Void c s.parameters k) (rest : List Step) (p : Progress) :
    runSteps e strict (s.step :: rest) c p =
      runSteps e strict ((s.without k).step :: rest) c p := by
  have hs : s.step.parameters = .object s.parameters := rfl
  have hw : (s.without k).step.parameters = .object (Entries.without s.parameters [k]) := rfl
  have haction : (s.without k).step.action = s.step.action := rfl
  rw [runSteps, runSteps, hs, hw, haction]
  rcases Placeholder.resolve_without strict h.null with ⟨f, hf, hf'⟩ | ⟨q, hq, hq', hsub⟩
  · rw [hf, hf']
  · rw [hq, hq']
    dsimp only
    have hbuilt := Action.build_alike (h.readAlike hsub) s.step.action
    cases hb : Action.build s.step.action (.object q) with
    | error f =>
      cases hb' : Action.build s.step.action (.object (Entries.without q [k])) with
      | error f' =>
        rw [hb, hb'] at hbuilt
        obtain rfl : f = f' := hbuilt
        rfl
      | ok a =>
        rw [hb, hb'] at hbuilt
        cases hbuilt
    | ok a =>
      cases hb' : Action.build s.step.action (.object (Entries.without q [k])) with
      | error f' =>
        rw [hb, hb'] at hbuilt
        cases hbuilt
      | ok a' =>
        rw [hb, hb'] at hbuilt
        dsimp only
        rw [hbuilt e c]

/-- A step may be replaced by one that does the same in every scene to which the steps before it
lead. -/
theorem runSteps_replace {s s' : Step} {rest : List Step}
    (first : List Step) (x : Scene σ) (p : Progress)
    (h : ∀ vs y p, Evaluations e strict o first x vs y → (∀ v ∈ vs, v.outcome.success = true) →
      runSteps e strict (s :: rest) y.context p = runSteps e strict (s' :: rest) y.context p) :
    (runSteps e strict (first ++ s :: rest) x.context p).run o x.instant x.state =
        (runSteps e strict (first ++ s' :: rest) x.context p).run o x.instant x.state ∧
      (runSteps e strict (first ++ s :: rest) x.context p).trace o x.instant x.state =
        (runSteps e strict (first ++ s' :: rest) x.context p).trace o x.instant x.state := by
  -- on the steps before, since a run that ends at one of these comes to neither of the two
  induction first generalizing x p with
  | nil =>
    have hsame := h [] x p .nil (by simp)
    rw [List.nil_append, List.nil_append, hsame]
    exact ⟨rfl, rfl⟩
  | cons t first ih =>
    rw [List.cons_append, List.cons_append]
    cases hp : Placeholder.resolve strict x.context t.parameters with
    | error f =>
      rw [runSteps, runSteps, hp]
      exact ⟨rfl, rfl⟩
    | ok parameters =>
      cases hb : Action.build t.action parameters with
      | error f =>
        simp only [runSteps, hp, hb]
        exact ⟨by cases f <;> rfl, by cases f <;> rfl⟩
      | ok a =>
        obtain ⟨⟨⟨out, c⟩, i, w⟩, hrun⟩ : ∃ r, (a.run e x.context).run o x.instant x.state = r :=
          ⟨_, rfl⟩
        have hrun' : (a.run e x.context).run o x.instant x.state =
          ((out, (⟨c, i, w⟩ : Scene σ).context), i, w) := hrun
        cases hout : out.success with
        | false =>
          obtain ⟨h1, h2⟩ := runSteps_failed hp hb hrun' hout (first ++ s :: rest) p
          obtain ⟨h3, h4⟩ := runSteps_failed hp hb hrun' hout (first ++ s' :: rest) p
          exact ⟨h1.trans h3.symm, h2.trans h4.symm⟩
        | true =>
          obtain ⟨h1, h2⟩ := runSteps_step hp hb hrun' hout (first ++ s :: rest) p
          obtain ⟨h3, h4⟩ := runSteps_step hp hb hrun' hout (first ++ s' :: rest) p
          obtain ⟨hrest, htrace⟩ := ih ⟨c, i, w⟩ (p.add out) fun vs y p hvs hok =>
            h _ y p (.cons hp hb hrun' hvs) (by simpa [hout] using hok)
          rw [h1, h2, h3, h4, hrest, htrace]
          exact ⟨rfl, rfl⟩

theorem dialect_without
    (h : k = "dialect" → ∀ v, (k, v) ∈ s.parameters → Placeholder.substitute c v = .null) :
    (s.without k).dialect c = s.dialect c := by
  unfold Wire.TestStep.dialect Wire.TestStep.without Action.HttpCall.parameter
  by_cases hk : k = "dialect"
  · rw [Entries.get?_without_of_mem s.parameters (by simp [hk])]
    cases hv : Entries.get? s.parameters "dialect" with
    | none => rfl
    | some v => exact (h hk v (hk ▸ Entries.mem_of_get? hv)).symm
  · rw [Entries.get?_without_of_not_mem s.parameters (by simpa using Ne.symm hk)]

/-- But for a query, the check does not look at a step's parameters. -/
theorem validateStep_without (h : s.action = "Database.query" → k = "dialect" →
    ∀ v, (k, v) ∈ s.parameters → Placeholder.substitute c v = .null) :
    validateStep c (s.without k).step = validateStep c s.step := by
  have haction : (s.without k).action = s.action := rfl
  have hdialect : s.action = "Database.query" → (s.without k).dialect c = s.dialect c :=
    fun hq => dialect_without (h hq)
  by_cases hs : Rejected c s
  · have hs' : Rejected c (s.without k) := by
      rcases hs with hn | ⟨hq, hopen, hunknown⟩
      · exact .inl hn
      · exact .inr ⟨hq, by rwa [hdialect hq], by rwa [hdialect hq]⟩
    rw [validateStep_of_rejected hs, validateStep_of_rejected hs', haction]
    rcases hs with hn | ⟨hq, -, -⟩
    · rw [Action.refusal, Action.refusal, if_neg hn, if_neg hn]
    · rw [hdialect hq]
  · have hs' : ¬Rejected c (s.without k) := by
      rintro (hn | ⟨hq, hopen, hunknown⟩)
      · exact hs (.inl hn)
      · rw [hdialect hq] at hopen hunknown
        exact hs (.inr ⟨hq, hopen, hunknown⟩)
    rw [validateStep_of_not_rejected hs, validateStep_of_not_rejected hs']

theorem validate_replace {s s' : Step} (h : validateStep c s = validateStep c s')
    (first rest : List Step) :
    validate c (first ++ s :: rest) = validate c (first ++ s' :: rest) := by
  induction first with
  | nil =>
    change (validateStep c s >>= fun _ => validate c rest) =
      (validateStep c s' >>= fun _ => validate c rest)
    rw [h]
  | cons t first ih =>
    change (validateStep c t >>= fun _ => validate c (first ++ s :: rest)) =
      (validateStep c t >>= fun _ => validate c (first ++ s' :: rest))
    rw [ih]

/-- The run of a test comes to the turn of the step after the first ones. -/
def Reaches (e : Equipment) (strict : Bool) (o : Outside σ) (steps first : List Step)
    (x y : Scene σ) : Prop :=
  validate x.context steps = .ok () ∧
    ∃ vs, Evaluations e strict o first x vs y ∧ ∀ v ∈ vs, v.outcome.success = true

/-- With a parameter that is null when the turn of its step comes, a test has the outcome, the
variables and the effects that it has without it. For the dialect of a query, that has to show at
the start. -/
theorem process_without {first rest : List Step} {x : Scene σ}
    (hturn : ∀ y, Reaches e strict o (first ++ s.step :: rest) first x y →
      Action.Void y.context s.parameters k)
    (hstart : s.action = "Database.query" → k = "dialect" →
      ∀ v, (k, v) ∈ s.parameters → Placeholder.substitute x.context v = .null) :
    (process e strict (first ++ s.step :: rest) x.context).run o x.instant x.state =
        (process e strict (first ++ (s.without k).step :: rest) x.context).run o x.instant x.state ∧
      (process e strict (first ++ s.step :: rest) x.context).trace o x.instant x.state =
        (process e strict (first ++ (s.without k).step :: rest) x.context).trace
          o x.instant x.state := by
  have hvalid := validate_replace (validateStep_without hstart).symm first rest
  cases hv : validate x.context (first ++ s.step :: rest) with
  -- refused at the start, no step has its turn
  | error f =>
    have hempty : ∀ t : Step, (first ++ t :: rest).isEmpty = false := by simp
    unfold process
    simp only [hempty, ← hvalid, hv, Bool.false_eq_true, if_false]
    exact ⟨by cases f <;> rfl, by cases f <;> rfl⟩
  | ok u =>
    obtain ⟨h1, h2⟩ := process_of_validate e strict o (by simp) hv
    obtain ⟨h3, h4⟩ := process_of_validate e strict o (by simp) (hvalid.symm.trans hv)
    have hsame : ∀ vs y p, Evaluations e strict o first x vs y →
        (∀ v ∈ vs, v.outcome.success = true) →
        runSteps e strict (s.step :: rest) y.context p =
          runSteps e strict ((s.without k).step :: rest) y.context p :=
      fun vs y p hvs hok => runSteps_without (hturn y ⟨hv, vs, hvs, hok⟩) rest p
    obtain ⟨hrun, htrace⟩ := runSteps_replace first x {} hsame
    rw [h1, h2, h3, h4, hrun, htrace]
    exact ⟨rfl, rfl⟩

end Test
end TestWorker
