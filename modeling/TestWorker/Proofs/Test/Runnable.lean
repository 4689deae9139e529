import TestWorker.Proofs.Placeholder.Pieces
import TestWorker.Proofs.Test.Intake
import TestWorker.Proofs.Test.Rest

namespace TestWorker

namespace Placeholder

theorem occursIn_of_unbound {c : Context} {s r : String} (h : fill c s = .text r) {t : Token}
    (ht : t ∈ tokens s) (hunbound : c.get? t.name = none) : occursIn r = true := by
  have hmem := mem_tokens.1 ht
  obtain ⟨before, after, hs⟩ := List.append_of_mem hmem
  have hr : r.toList = before.flatMap (Segment.fill c) ++
      (t.written ++ after.flatMap (Segment.fill c)) := by
    rw [toList_of_fill h, hs]
    simp [Segment.fill, hunbound]
  -- a token that stays is one of the pieces of the filled text
  have hsplit := Pieces.splits_split r.toList
  obtain ⟨pieces, chunk, rest, hrest, -⟩ := hsplit.places (formed_of_mem_split hmem) hr
  apply occursIn_iff.2
  exact ⟨t, (mem_tokens_iff hsplit).2 (by simp [hrest])⟩

theorem bound_of_settled {c : Context} {s : String} (h : Test.unfilled (fill c s) = false) :
    ∀ t ∈ tokens s, c.get? t.name ≠ none := by
  intro t ht hunbound
  have hmem := mem_tokens.1 ht
  have htext : ∃ r, fill c s = .text r := by
    unfold fill
    split
    · rename_i u hu
      rw [hu, List.mem_singleton, Segment.token.injEq] at hmem
      rw [← hmem, hunbound]
      exact ⟨s, rfl⟩
    · exact ⟨_, rfl⟩
  obtain ⟨r, hr⟩ := htext
  rw [hr, Test.unfilled, occursIn_of_unbound hr ht hunbound] at h
  cases h

end Placeholder

namespace Test
variable {σ : Type} {e : Equipment} {strict : Bool} {o : Outside σ}

/-- Where a variable has changed in a run, a step of the run has stored another value under its
name. -/
theorem Evaluations.exists_change {steps : List Step} {x z : Scene σ}
    {vs : List (Evaluation σ)} (h : Evaluations e strict o steps x vs z)
    {k : String} (hk : z.context.get? k ≠ x.context.get? k) :
    ∃ v ∈ vs, v.variable = .text k ∧ v.after.context.get? k ≠ v.before.context.get? k := by
  induction h with
  | nil => exact absurd rfl hk
  | @cons s steps x y z p a out vs _ _ hrun _ ih =>
    by_cases hsame : y.context.get? k = x.context.get? k
    · rw [← hsame] at hk
      obtain ⟨v, hv, hchange⟩ := ih hk
      exact ⟨v, by simp [hv], hchange⟩
    · refine ⟨⟨s, a, x, out, y⟩, by simp, ?_, hsame⟩
      apply Classical.byContradiction
      intro hname
      have hcontext := ((Action.run_settles e a x.context).run o x.instant x.state).eq_or_store
      rw [hrun] at hcontext
      rcases hcontext with hc | ⟨v, hv⟩
      · exact hsame (congrArg (Context.get? · k) hc)
      · exact hsame (Context.get?_of_store hv hname)

/-- A step that the check refuses and that can be built later on is a query. Its dialect was settled
at the start, and a variable that it names has changed since. -/
theorem built_later {c c' : Context} {s : Wire.TestStep} {parameters : Value} {a : Action}
    (h : Rejected c s) (hp : Placeholder.resolve strict c' s.step.parameters = .ok parameters)
    (hb : Action.build s.step.action parameters = .ok a) :
    s.action = "Database.query" ∧ ∃ template,
      Action.HttpCall.parameter s.parameters "dialect" = .text template ∧
      (∀ t ∈ Placeholder.tokens template, c.get? t.name ≠ none) ∧
      ∃ t ∈ Placeholder.tokens template, c'.get? t.name ≠ c.get? t.name := by
  obtain ⟨es, hes, hd⟩ := substitute_parameters c' s
  have hparameters : parameters = .object es := by rw [Placeholder.resolve_eq_ok hp, hes]
  have hbuilt : ¬Action.Refused s.action (s.dialect c') := by
    intro hrefused
    rw [← hd] at hrefused
    rw [hparameters, show s.step.action = .text s.action from rfl,
      Action.build_of_refused hrefused] at hb
    cases hb
  -- an unknown action stays unknown, so that it was the dialect that was refused
  rcases h with hunknown | ⟨hquery, hsettled, hunknown⟩
  · exact absurd (.inl hunknown) hbuilt
  refine ⟨hquery, ?_⟩
  have hknown : KnownDialect (s.dialect c') := by
    apply Decidable.byContradiction
    intro hnot
    exact hbuilt (.inr ⟨hquery, hnot⟩)
  obtain ⟨r, hr⟩ := hknown.exists_text
  obtain ⟨template, htemplate⟩ := Placeholder.substitute_eq_text hr
  have hne : s.dialect c' ≠ s.dialect c := fun hsame => hunknown (hsame ▸ hknown)
  rw [Wire.TestStep.dialect, htemplate, Placeholder.substitute_text] at hsettled
  exact ⟨template, htemplate, Placeholder.bound_of_settled hsettled, exists_changed htemplate hne⟩

/-- A test whose steps would all be built and succeed, each when its turn comes, is evaluated as
that. The check is in its way only where the dialect of a query is settled at the start and unknown,
and an earlier step stores another value under a name in it. -/
theorem process_runnable {steps : List Wire.TestStep} {x z : Scene σ} {vs : List (Evaluation σ)}
    (h : Evaluations e strict o (steps.map (·.step)) x vs z)
    (hok : ∀ v ∈ vs, v.outcome.success = true) :
    (steps ≠ [] → (∀ s ∈ steps, ¬Rejected x.context s) →
      (process e strict (steps.map (·.step)) x.context).run o x.instant x.state =
          ((.ok ⟨reportsOf vs, lastResponse (vs.map (·.outcome.response))⟩, z.context), z.instant,
            z.state) ∧
        (process e strict (steps.map (·.step)) x.context).trace o x.instant x.state =
          ⟨x.instant, .clock, x.instant⟩ :: vs.flatMap (·.effects e o)) ∧
    ((∃ s ∈ steps, Rejected x.context s) →
      ∃ before s after t template, steps = before ++ s :: after ∧
        (∀ s' ∈ before, ¬Rejected x.context s') ∧ Rejected x.context s ∧
        (process e strict (steps.map (·.step)) x.context).run o x.instant x.state =
          ((.ok ⟨[misconfigured (Action.refusal s.action (s.dialect x.context)).message t], .null⟩,
            x.context), x.instant, x.state) ∧
        s.action = "Database.query" ∧
        Action.HttpCall.parameter s.parameters "dialect" = .text template ∧
        (∀ u ∈ Placeholder.tokens template, x.context.get? u.name ≠ none) ∧
        ∃ u ∈ Placeholder.tokens template, ∃ v ∈ vs.take before.length,
          v.variable = .text u.name ∧ v.after.context.get? u.name ≠ v.before.context.get? u.name) ∧
    (steps = [] → ∃ t, (process e strict (steps.map (·.step)) x.context).run o x.instant x.state =
      ((.ok ⟨[misconfigured "Test has no actions" t], .null⟩, x.context), x.instant, x.state)) := by
  refine ⟨?_, ?_, ?_⟩
  · intro hne hnone
    obtain ⟨hrun, htrace⟩ := process_of_validate e strict o (by simpa using hne)
      (validate_of_not_rejected hnone)
    obtain ⟨hrest, htrace'⟩ := runSteps_evaluated h hok [] {}
    rw [List.append_nil] at hrest htrace'
    rw [hrun, htrace, hrest, htrace']
    simp [runSteps, Progress.outcome_after]
  · intro hsome
    obtain ⟨before, s, after, rfl, hbefore, hs⟩ := exists_first_rejected hsome
    obtain ⟨t, hrun, -⟩ := process_of_rejected e strict o after hbefore hs
    -- the refused step was built in the run, with the variables as the steps before it left them
    rw [List.map_append, List.map_cons] at h
    obtain ⟨ws, v, us, parameters, rfl, hws, hp, hb⟩ := h.of_append
    obtain ⟨hquery, template, htemplate, hbound, u, hu, hchanged⟩ := built_later hs hp hb
    refine ⟨before, s, after, t, template, rfl, hbefore, hs, hrun, hquery, htemplate, hbound,
      u, hu, ?_⟩
    have hlen : ws.length = before.length := by rw [hws.length_eq, List.length_map]
    rw [← hlen, List.take_left]
    exact hws.exists_change hchanged
  · rintro rfl
    exact ⟨_, rfl⟩

def choosingSteps : List Wire.TestStep := [
  ⟨"Faker.generate", [("category", .text "person"), ("function", .text "first_name"),
    ("variable", .text "db")]⟩,
  ⟨"Database.query", [("dialect", .text "\x7b\x7bdb\x7d\x7d"),
    ("connection", .text "sqlite+aiosqlite:///x.db"), ("query", .text "select 1")]⟩]

def choosingEquipment : Equipment :=
  ⟨⟨some .targets, false⟩, [Provider.english "person" [Provider.sample "first_name" "sqlite"]]⟩

def choosingScene (entries : List (Value × Value)) : Scene Rehearsal where
  context := ⟨entries⟩
  instant := 0
  state :=
    { script := { results := [{ result := .ok { columns := some ["n"], rows := [[.int 1]] } }] } }

theorem process_runnable_open :
    ∃ (z : Scene Rehearsal) (vs : List (Evaluation Rehearsal)),
      Evaluations choosingEquipment false Rehearsal.outside (choosingSteps.map (·.step))
        (choosingScene []) vs z ∧
      (process choosingEquipment false (choosingSteps.map (·.step)) (choosingScene []).context).run
          Rehearsal.outside 0 (choosingScene []).state =
        ((.ok ⟨reportsOf vs, lastResponse (vs.map (·.outcome.response))⟩, z.context), z.instant,
          z.state) := by
  obtain ⟨z, out, hout, hrun⟩ :=
    exists_scene_of_any (o := Rehearsal.outside) (x := choosingScene [])
    (a := runSteps choosingEquipment false (choosingSteps.map (·.step))
      (choosingScene []).context {})
    (p := Outcome.success) (by decide +kernel)
  obtain ⟨vs, hvs, hok⟩ := exists_evaluations hrun hout
  refine ⟨z, vs, hvs, ?_⟩
  exact ((process_runnable hvs hok).1 (by decide) (by decide +kernel)).1

/-- The name was bound to another dialect at the start. When its turn comes the query could be
built, and it would succeed, but the check refuses it. -/
theorem runnable_refused :
    ∃ (z : Scene Rehearsal) (vs : List (Evaluation Rehearsal)) (out : Outcome),
      Evaluations choosingEquipment false Rehearsal.outside (choosingSteps.map (·.step))
        (choosingScene [(.text "db", .text "oracle")]) vs z ∧
      (∀ v ∈ vs, v.outcome.success = true) ∧
      ((process choosingEquipment false (choosingSteps.map (·.step))
          (choosingScene [(.text "db", .text "oracle")]).context).run Rehearsal.outside 0
        (choosingScene [(.text "db", .text "oracle")]).state).1.1 = .ok out ∧
      out.reports.map (fun r => (r.action, r.success)) = [("Test.configure", false)] := by
  obtain ⟨z, out, hout, hrun⟩ := exists_scene_of_any (o := Rehearsal.outside)
    (x := choosingScene [(.text "db", .text "oracle")])
    (a := runSteps choosingEquipment false (choosingSteps.map (·.step))
      (choosingScene [(.text "db", .text "oracle")]).context {})
    (p := Outcome.success) (by decide +kernel)
  obtain ⟨vs, hvs, hok⟩ := exists_evaluations hrun hout
  obtain ⟨z', told, htold, hrun'⟩ := exists_scene_of_any (o := Rehearsal.outside)
    (x := choosingScene [(.text "db", .text "oracle")])
    (a := process choosingEquipment false (choosingSteps.map (·.step))
      (choosingScene [(.text "db", .text "oracle")]).context)
    (p := fun out =>
      out.reports.map (fun r => (r.action, r.success)) == [("Test.configure", false)])
    (by decide +kernel)
  exact ⟨z, vs, told, hvs, hok, congrArg (·.1.1) hrun', by simpa using htold⟩

end Test
end TestWorker
