import TestWorker.Proofs.Context
import TestWorker.Proofs.Test.Rest

namespace TestWorker

namespace Placeholder

theorem substitute_eq_text {c : Context} {v : Value} {r : String} (h : substitute c v = .text r) :
    ∃ s, v = .text s := by
  cases v with
  | text s => exact ⟨s, rfl⟩
  | list vs => simp [substitute_list] at h
  | object es => simp [substitute_object] at h
  | _ => cases h

end Placeholder

namespace Test
variable {σ : Type} {e : Equipment} {strict : Bool} {o : Outside σ}

/-- What an action of the run could store under. -/
def Evaluation.variable (v : Evaluation σ) : Value :=
  Action.HttpCall.parameter v.action.parameters "variable"

theorem Evaluations.get?_eq {steps : List Step} {x z : Scene σ} {vs : List (Evaluation σ)}
    (h : Evaluations e strict o steps x vs z) {k : String} (hk : ∀ v ∈ vs, v.variable ≠ .text k) :
    z.context.get? k = x.context.get? k := by
  induction h with
  | nil => rfl
  | @cons s steps x y z p a out vs _ _ hrun _ ih =>
    rw [ih fun v hv => hk v (by simp [hv])]
    have hcontext := ((Action.run_settles e a x.context).run o x.instant x.state).eq_or_store
    rw [hrun] at hcontext
    rcases hcontext with hc | ⟨v, hv⟩
    · exact congrArg (Context.get? · k) hc
    · exact Context.get?_of_store hv (hk ⟨s, a, x, out, y⟩ (by simp))

theorem Evaluations.known {steps : List Step} {x z : Scene σ} {vs : List (Evaluation σ)}
    (h : Evaluations e strict o steps x vs z) {v : Evaluation σ} (hv : v ∈ vs) :
    ∃ n ∈ Misconfiguration.knownActions, v.step.action = .text n := by
  induction h with
  | nil => cases hv
  | @cons s steps x y z p a out vs _ hb _ _ ih =>
    rcases List.mem_cons.1 hv with rfl | hv
    · obtain ⟨hname, hknown⟩ := Action.name_of_build hb
      exact ⟨a.name, hknown, hname⟩
    · exact ih hv

theorem exists_changed {c c' : Context} {s : Wire.TestStep} {template : String}
    (h : Action.HttpCall.parameter s.parameters "dialect" = .text template)
    (hne : s.dialect c' ≠ s.dialect c) :
    ∃ t ∈ Placeholder.tokens template, c'.get? t.name ≠ c.get? t.name := by
  apply Classical.byContradiction
  intro hnone
  have hsame : ∀ t ∈ Placeholder.tokens template, c'.get? t.name = c.get? t.name := by
    intro t ht
    apply Classical.byContradiction
    intro hchanged
    exact hnone ⟨t, ht, hchanged⟩
  apply hne
  rw [Wire.TestStep.dialect, Wire.TestStep.dialect, h, Placeholder.substitute_text,
    Placeholder.substitute_text, Placeholder.fill_congr hsame]

/-- A step that is refused only when its turn comes is a query. Its dialect was left open at the
start, or a variable that it names has changed. -/
theorem refused_later {c c' : Context} {s : Wire.TestStep} {parameters : Value}
    {reason : Misconfiguration} (h : ¬Rejected c s)
    (hp : Placeholder.resolve strict c' s.step.parameters = .ok parameters)
    (hb : Action.build s.step.action parameters = .error (.misconfigured reason)) :
    s.action = "Database.query" ∧ ∃ template,
      Action.HttpCall.parameter s.parameters "dialect" = .text template ∧
      ∃ t ∈ Placeholder.tokens template, c.get? t.name = none ∨
        Placeholder.LeavesToken c template t ∨ c'.get? t.name ≠ c.get? t.name := by
  obtain ⟨es, hes, hd⟩ := substitute_parameters c' s
  have hparameters : parameters = .object es := by rw [Placeholder.resolve_eq_ok hp, hes]
  rw [hparameters] at hb
  have hrefused : Action.Refused s.action (s.dialect c') := by
    apply Classical.byContradiction
    intro hnot
    rw [← hd] at hnot
    obtain ⟨a, ha⟩ := Action.build_of_not_refused hnot
    rw [show s.step.action = .text s.action from rfl, ha] at hb
    cases hb
  rcases hrefused with hunknown | ⟨hquery, hdialect'⟩
  · exact absurd (.inl hunknown) h
  refine ⟨hquery, ?_⟩
  -- an open dialect was left so by a token of it; one that was known then has changed since
  cases hopen : unfilled (s.dialect c) with
  | true =>
    obtain ⟨r, hr, hoccurs⟩ : ∃ r, s.dialect c = .text r ∧ Placeholder.occursIn r = true := by
      cases hv : s.dialect c with
      | text r => exact ⟨r, rfl, by simpa [unfilled, hv] using hopen⟩
      | _ => simp [hv, unfilled] at hopen
    obtain ⟨template, htemplate⟩ := Placeholder.substitute_eq_text hr
    rw [Wire.TestStep.dialect, htemplate] at hr
    obtain ⟨t, ht, hcase⟩ := Placeholder.exists_unbound_or_leavesToken hr hoccurs
    exact ⟨template, htemplate, t, ht, hcase.imp_right .inl⟩
  | false =>
    have hdialect : KnownDialect (s.dialect c) := by
      apply Decidable.byContradiction
      intro hnot
      exact h (.inr ⟨hquery, hopen, hnot⟩)
    obtain ⟨r, hr⟩ := hdialect.exists_text
    obtain ⟨template, htemplate⟩ := Placeholder.substitute_eq_text hr
    have hne : s.dialect c' ≠ s.dialect c := fun hsame => hdialect' (hsame ▸ hdialect)
    obtain ⟨t, ht, hchanged⟩ := exists_changed htemplate hne
    exact ⟨template, htemplate, t, ht, .inr (.inr hchanged)⟩

theorem process_of_rejected (e : Equipment) (strict : Bool) (o : Outside σ)
    {before : List Wire.TestStep} {s : Wire.TestStep} (after : List Wire.TestStep)
    {x : Scene σ} (h : ∀ s' ∈ before, ¬Rejected x.context s') (hs : Rejected x.context s) :
    ∃ t, (process e strict ((before ++ s :: after).map (·.step)) x.context).run
      o x.instant x.state =
        ((.ok ⟨[misconfigured (Action.refusal s.action (s.dialect x.context)).message t], .null⟩,
          x.context), x.instant, x.state) ∧
      ∀ m ∈ (process e strict ((before ++ s :: after).map (·.step)) x.context).trace o x.instant
        x.state, m.effect.isClock := by
  have hempty : ((before ++ s :: after).map (·.step)).isEmpty = false := by simp
  have hvalidate := validate_of_rejected after h hs
  generalize (before ++ s :: after).map (·.step) = steps at hempty hvalidate ⊢
  refine ⟨Clock.elapsed x.instant x.instant, ?_⟩
  simp [process, hempty, hvalidate, Activity.run_bind, Activity.trace_bind, Effect.isClock]

theorem process_of_not_rejected {steps : List Wire.TestStep} (hne : steps ≠ []) {x : Scene σ}
    (h : ∀ s ∈ steps, ¬Rejected x.context s) :
    (process e strict (steps.map (·.step)) x.context).run o x.instant x.state =
      (runSteps e strict (steps.map (·.step)) x.context {}).run o x.instant x.state :=
  (process_of_validate e strict o (by simpa using hne) (validate_of_not_rejected h)).1

theorem Evaluations.length_eq {steps : List Step} {x z : Scene σ} {vs : List (Evaluation σ)}
    (h : Evaluations e strict o steps x vs z) : vs.length = steps.length := by
  rw [← h.map_step, List.length_map]

theorem length_reportsOf {vs : List (Evaluation σ)} (h : ∀ v ∈ vs, v.Told) :
    (reportsOf vs).length = vs.length := by
  induction vs with
  | nil => rfl
  | cons v vs ih =>
    obtain ⟨r, hr, -⟩ := h v (by simp)
    rw [reportsOf_cons, hr, List.length_append, ih fun w hw => h w (by simp [hw])]
    exact Nat.add_comm _ _

theorem ne_configure_of_mem_reportsOf {steps : List Step} {x z : Scene σ}
    {vs : List (Evaluation σ)} (h : Evaluations e strict o steps x vs z) (htold : ∀ v ∈ vs, v.Told)
    {r : Report} (hr : r ∈ reportsOf vs) : r.action ≠ "Test.configure" := by
  obtain ⟨v, hv, hr⟩ := List.mem_flatMap.1 hr
  obtain ⟨r', hreports, hname⟩ := htold v hv
  obtain ⟨n, hn, hstep⟩ := h.known hv
  rw [hreports, List.mem_singleton] at hr
  rw [hstep, Value.text.injEq] at hname
  rw [hr, ← hname]
  rintro rfl
  exact absurd hn (by decide)

/-- A step that is refused at the start is told of alone, and nothing is asked for but the clock. If
none is, a failure to configure stands last, and its step is a query whose dialect names a variable
that was not there at the start, or whose value left the dialect open, or that an earlier step may
have written. -/
theorem process_intake (e : Equipment) (strict : Bool) (o : Outside σ)
    {steps : List Wire.TestStep} (hne : steps ≠ []) (x : Scene σ) :
    ((∃ s ∈ steps, Rejected x.context s) →
      ∃ before s after t, steps = before ++ s :: after ∧ (∀ s' ∈ before, ¬Rejected x.context s') ∧
        Rejected x.context s ∧
        (process e strict (steps.map (·.step)) x.context).run o x.instant x.state =
          ((.ok ⟨[misconfigured (Action.refusal s.action (s.dialect x.context)).message t], .null⟩,
            x.context), x.instant, x.state) ∧
        ∀ m ∈ (process e strict (steps.map (·.step)) x.context).trace o x.instant x.state,
          m.effect.isClock) ∧
    ((∀ s ∈ steps, ¬Rejected x.context s) → ∀ (z : Scene σ) (out : Outcome),
      (process e strict (steps.map (·.step)) x.context).run o x.instant x.state =
        ((.ok out, z.context), z.instant, z.state) →
      ∀ i r, out.reports[i]? = some r → r.action = "Test.configure" →
        i + 1 = out.reports.length ∧ r.success = false ∧
        ∃ vs s template, Evaluations e strict o ((steps.map (·.step)).take i) x vs z ∧
          steps[i]? = some s ∧ s.action = "Database.query" ∧
          Action.HttpCall.parameter s.parameters "dialect" = .text template ∧
          ∃ t ∈ Placeholder.tokens template, x.context.get? t.name = none ∨
            Placeholder.LeavesToken x.context template t ∨
            ∃ v ∈ vs, v.variable = .text t.name) := by
  constructor
  · intro h
    obtain ⟨before, s, after, rfl, hbefore, hs⟩ := exists_first_rejected h
    obtain ⟨t, hrun, htrace⟩ := process_of_rejected e strict o after hbefore hs
    exact ⟨before, s, after, t, rfl, hbefore, hs, hrun, htrace⟩
  · intro h z out hrun i r hi hr
    rw [process_of_not_rejected hne h] at hrun
    obtain ⟨k, vs, extra, -, hcourse, hreports, -, -, -⟩ := runSteps_course hrun
    rw [show (({} : Progress).reports) = [] from rfl, List.nil_append] at hreports
    have hlen : (reportsOf vs).length = k := by
      have hbound := hcourse.bound
      rw [length_reportsOf hcourse.told, hcourse.evaluated.length_eq, List.length_take]
      omega
    rw [hreports] at hi
    -- evaluated steps are told of under their own names, so that the report is the one after them
    rcases Nat.lt_or_ge i (reportsOf vs).length with hlt | hge
    · rw [List.getElem?_append_left hlt] at hi
      exact absurd hr (ne_configure_of_mem_reportsOf hcourse.evaluated hcourse.told
        (List.mem_of_getElem? hi))
    rw [List.getElem?_append_right hge] at hi
    rcases hcourse.refused with rfl | ⟨s', parameters, reason, t, hs', hp, hb, rfl⟩
    · simp at hi
    obtain ⟨hi0, rfl⟩ : i - (reportsOf vs).length = 0 ∧ misconfigured reason.message t = r := by
      simpa [List.getElem?_singleton] using hi
    obtain rfl : i = k := by omega
    rw [List.getElem?_map, Option.map_eq_some_iff] at hs'
    obtain ⟨s, hs, rfl⟩ := hs'
    obtain ⟨hquery, template, htemplate, tok, htok, hcase⟩ :=
      refused_later (h s (List.mem_of_getElem? hs)) hp hb
    refine ⟨by simp [hreports, hlen], rfl, vs, s, template, hcourse.evaluated, hs, hquery,
      htemplate, tok, htok, ?_⟩
    rcases hcase with hunbound | hleaves | hchanged
    · exact .inl hunbound
    · exact .inr (.inl hleaves)
    · refine .inr (.inr ?_)
      apply Classical.byContradiction
      intro hnone
      exact hchanged (hcourse.evaluated.get?_eq fun v hv hvar => hnone ⟨v, hv, hvar⟩)

def sampleQuery (dialect : String) : List Wire.TestStep := [
  ⟨"Faker.generate", [("category", .text "person"), ("function", .text "first_name"),
    ("variable", .text "db")]⟩,
  ⟨"Database.query", [("dialect", .text dialect)]⟩]

def boundScene : Scene Rehearsal := ⟨⟨[(.text "db", .text "mysql")]⟩, 0, {}⟩

theorem process_intake_sample :
    (∃ r, (process sampleEquipment false ((sampleQuery "oracle").map (·.step))
        sampleScene.context).run Rehearsal.outside sampleScene.instant sampleScene.state =
      ((.ok ⟨[r], .null⟩, sampleScene.context), sampleScene.instant, sampleScene.state)) ∧
    ∃ (z : Scene Rehearsal) (out : Outcome) (vs : List (Evaluation Rehearsal)),
      out.reports.map (·.action) = ["Faker.generate", "Test.configure"] ∧
      Evaluations sampleEquipment false Rehearsal.outside
        (((sampleQuery "\x7b\x7bdb\x7d\x7d").map (·.step)).take 1) boundScene vs z := by
  constructor
  · obtain ⟨before, s, after, t, -, -, -, hrun, -⟩ :=
      (process_intake sampleEquipment false Rehearsal.outside
        (by decide : sampleQuery "oracle" ≠ []) sampleScene).1 (by decide +kernel)
    exact ⟨_, hrun⟩
  · obtain ⟨z, out, hout, hrun⟩ := exists_scene_of_any (o := Rehearsal.outside) (x := boundScene)
      (a := process sampleEquipment false ((sampleQuery "\x7b\x7bdb\x7d\x7d").map (·.step))
        boundScene.context)
      (p := fun out => out.reports.map (·.action) == ["Faker.generate", "Test.configure"])
      (by decide +kernel)
    have hactions : out.reports.map (·.action) = ["Faker.generate", "Test.configure"] := by
      simpa using hout
    obtain ⟨r, hr, hname⟩ : ∃ r, out.reports[1]? = some r ∧ r.action = "Test.configure" := by
      have h1 := congrArg (·[1]?) hactions
      simpa using h1
    obtain ⟨-, -, vs, s, template, hvs, -⟩ :=
      (process_intake sampleEquipment false Rehearsal.outside (by decide) boundScene).2
        (by decide +kernel) z out hrun 1 r hr hname
    exact ⟨z, out, vs, hactions, hvs⟩

end Test
end TestWorker
