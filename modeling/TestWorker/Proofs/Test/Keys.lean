import TestWorker.Proofs.Context.Agreement
import TestWorker.Proofs.Test.Scope
import TestWorker.Proofs.Test.Strict

namespace TestWorker

def Value.isText : Value → Bool
  | .text _ => true
  | _ => false

theorem Value.eq_text_of_isText {v : Value} (h : v.isText = true) : ∃ s, v = .text s := by
  cases v with
  | text s => exact ⟨s, rfl⟩
  | _ => cases h

namespace Context

def Named (c : Context) : Prop := ∀ k ∈ c.keys, k.isText = true

instance (c : Context) : Decidable c.Named := inferInstanceAs (Decidable (∀ k ∈ c.keys, _))

theorem named_create (test environment : Entries) : (create test environment).Named := by
  intro k hk
  simp only [create, ofEntries, keys, List.map_map, List.mem_map] at hk
  obtain ⟨e, -, rfl⟩ := hk
  rfl

theorem map_putEntry (es : List (Value × Value)) (key v : Value) :
    (putEntry es key v).map (·.1) =
      if es.any (·.1.sameKey key) then es.map (·.1) else es.map (·.1) ++ [key] := by
  induction es with
  | nil => rfl
  | cons e es ih =>
    obtain ⟨k, w⟩ := e
    rw [putEntry]
    split
    · next hk => simp [hk]
    · next hk =>
      rw [Bool.not_eq_true] at hk
      rw [List.map_cons, List.map_cons, List.any_cons, ih, hk, Bool.false_or]
      exact apply_ite (List.cons k) _ _ _

theorem named_put {c : Context} {key v : Value} :
    (c.put key v).Named ↔ c.Named ∧ key.isText = true := by
  have hkeys : (c.put key v).keys = _ := map_putEntry c.entries key v
  unfold Named
  rw [hkeys]
  split
  · next hany =>
    refine ⟨fun h => ⟨h, ?_⟩, fun h => h.1⟩
    obtain ⟨e, he, hsame⟩ := List.any_eq_true.1 hany
    obtain ⟨s, hs⟩ := Value.eq_text_of_isText (h e.1 (List.mem_map_of_mem he))
    rw [hs] at hsame
    rw [Value.sameKey_text.1 (Value.sameKey_symm hsame)]
    rfl
  · simp [keys, or_imp, forall_and]

theorem named_of_store {c c' : Context} {name v : Value} (h : Action.store c name v = .ok c') :
    c'.Named ↔ c.Named ∧ (name.truthy = true → name.isText = true) := by
  obtain ⟨-, rfl⟩ := Action.store_eq_ok_iff.1 h
  cases name.truthy with
  | false => simp
  | true => simp [named_put]

end Context

namespace Test
variable {σ : Type} {e : Equipment} {strict : Bool} {o : Outside σ}

/-- There is a value to store, and the variable can name it. A generated value is stored before the
report is made, and so it is also where the report is then a failure. -/
def Evaluation.Retains (e : Equipment) (o : Outside σ) (u : Evaluation σ) : Prop :=
  match u.action with
  | .generate _ => Action.storable u.variable = true ∧ ∃ d v, draws (u.effects e o) = [(d, .ok v)]
  | .database _ _ => u.outcome.success = true
  | .http _ _ => False

/-- The evaluation stores under a key that is no text. -/
def Evaluation.Misnames (e : Equipment) (o : Outside σ) (u : Evaluation σ) : Prop :=
  u.Retains e o ∧ u.variable.truthy = true ∧ u.variable.isText = false

theorem Evaluation.Ran.stores_or_unchanged {u : Evaluation σ} (h : u.Ran e strict o) :
    (u.Retains e o ∧
        ∃ value, Action.store u.before.context u.variable value = .ok u.after.context) ∨
      ¬u.Retains e o ∧ u.after.context = u.before.context := by
  have hrun := h.run
  unfold Evaluation.Retains
  cases ha : u.action with
  | http n p => exact .inr ⟨id, h.context_of_http ha⟩
  | generate p =>
    have hdraws : u.effects e o =
        ((Action.generate p).run e u.before.context).trace o u.before.instant u.before.state := by
      rw [Evaluation.effects, ha]
    have hvariable : u.variable = Action.HttpCall.parameter p "variable" := by
      rw [Evaluation.variable, ha]
      rfl
    obtain ⟨r, -, -, hjudged⟩ :=
      (Action.generate_comes e p u.before.context).run o u.before.instant u.before.state
    rw [ha] at hrun
    rw [hrun] at hjudged
    rw [hdraws, hvariable]
    by_cases hretains : Action.storable (Action.HttpCall.parameter p "variable") = true ∧ ∃ d v,
        draws (((Action.generate p).run e u.before.context).trace o u.before.instant
          u.before.state) = [(d, .ok v)]
    · obtain ⟨hname, d, v, hdrawn⟩ := hretains
      exact .inl ⟨⟨hname, d, v, hdrawn⟩, v, hjudged.stored hdrawn hname⟩
    · refine .inr ⟨hretains, hjudged.unchanged fun d v hdrawn => ?_⟩
      exact Bool.eq_false_iff.2 fun hname => hretains ⟨hname, d, v, hdrawn⟩
  | database d p =>
    cases hsuccess : u.outcome.success with
    | true =>
      obtain ⟨value, -, hstored⟩ := h.stores hsuccess (by simp [ha])
      exact .inl ⟨rfl, value, hstored⟩
    | false =>
      refine .inr ⟨Bool.false_ne_true, ?_⟩
      rcases h.of_failure hsuccess with hc | ⟨r, -, hname, -⟩
      · exact hc
      · rw [ha] at hname
        simp [Action.name] at hname

theorem Evaluation.Ran.named_iff {u : Evaluation σ} (h : u.Ran e strict o) :
    u.after.context.Named ↔ u.before.context.Named ∧ ¬u.Misnames e o := by
  rcases h.stores_or_unchanged with ⟨hretains, value, hstored⟩ | ⟨hretains, hc⟩
  · rw [Context.named_of_store hstored]
    refine and_congr_right fun _ => ?_
    simp [Evaluation.Misnames, hretains]
  · rw [hc]
    exact (and_iff_left fun hmisnames => hretains hmisnames.1).symm

theorem Evaluations.named_iff {steps : List Step} {x y : Scene σ} {vs : List (Evaluation σ)}
    (h : Evaluations e strict o steps x vs y) :
    y.context.Named ↔ x.context.Named ∧ ∀ u ∈ vs, ¬u.Misnames e o := by
  induction h with
  | nil => simp
  | @cons s _ x y _ _ a out _ hp hb hrun _ ih =>
    have hran : (⟨s, a, x, out, y⟩ : Evaluation σ).Ran e strict o := ⟨⟨_, hp, hb⟩, hrun⟩
    rw [ih, hran.named_iff, and_assoc, List.forall_mem_cons]

/-- What a test comes to that has evaluated the first `k` of its steps: an outcome that tells of
them, or the fault about a placeholder of the next one. -/
inductive Concluded (strict : Bool) (steps : List Step) (x z : Scene σ)
    (k : Nat) (vs : List (Evaluation σ)) : Except Fault Outcome → Prop
  | told {out : Outcome} {extra : List Report} : out.reports = reportsOf vs ++ extra →
      Ends strict steps x z k vs extra → Concluded strict steps x z k vs (.ok out)
  | halted {s : Step} {name : String} : steps[k]? = some s → (∀ v ∈ vs, v.outcome.success = true) →
      Placeholder.resolve strict z.context s.parameters = .error (.unresolved name) →
      Concluded strict steps x z k vs (.error (.unresolved name))

theorem concluded_of_ok {steps : List Step} {x : Scene σ} {out : Outcome}
    (h : ((process e strict steps x.context).run o x.instant x.state).1.1 = .ok out) :
    ∃ k vs r z, (process e strict steps x.context).run o x.instant x.state =
        ((r, z.context), z.instant, z.state) ∧
      Evaluations e strict o (steps.take k) x vs z ∧ Concluded strict steps x z k vs r := by
  generalize hrun : (process e strict steps x.context).run o x.instant x.state = w at h
  obtain ⟨⟨r, c⟩, t, s⟩ := w
  obtain rfl : r = .ok out := h
  obtain ⟨k, vs, extra, -, -, hvs, hreports, hends, -, -⟩ := process_told (z := ⟨c, t, s⟩) hrun
  exact ⟨k, vs, .ok out, ⟨c, t, s⟩, rfl, hvs, .told hreports hends⟩

/-- Every test ends in the scene in which its evaluations have left it. -/
theorem process_concludes (e : Equipment) (strict : Bool) (o : Outside σ)
    (steps : List Wire.TestStep) (x : Scene σ) :
    ∃ k vs r z, (process e strict (steps.map (·.step)) x.context).run o x.instant x.state =
        ((r, z.context), z.instant, z.state) ∧
      Evaluations e strict o ((steps.map (·.step)).take k) x vs z ∧
      Concluded strict (steps.map (·.step)) x z k vs r := by
  obtain ⟨out, hlenient, -⟩ := (process_lenient e steps x.context).run o x.instant x.state
  cases strict with
  | false => exact concluded_of_ok hlenient
  | true =>
    rcases process_agree_or_halt e o (steps.map (·.step)) x with
      ⟨hrun, -⟩ | ⟨⟨hne, hv⟩, k, vs, y, s, t, h⟩
    · exact concluded_of_ok (hrun ▸ hlenient)
    · refine ⟨k, vs, _, y, ?_, h.strictly, .halted h.reached h.succeeded h.resolve⟩
      rw [(process_of_validate e true o hne hv).1]
      exact (h.run_strict {}).1

def opening (job : Wire.TestJob) (now : Instant) (s : σ) : Scene σ :=
  ⟨Context.create job.testVariables job.envVariables, now, s⟩

/-- A job's variables have texts for keys when it starts. They have no other keys after an evaluated
step exactly if no step so far has stored under a name that is no text; a name that is false stores
nothing. -/
theorem process_named_iff (job : Wire.TestJob) (e : Equipment)
    (strict : Bool) (o : Outside σ) (now : Instant) (s : σ) :
    (opening job now s).context.Named ∧
    ∃ k vs r z, (process e strict (Worker.stepsOf job) (opening job now s).context).run o now s =
        ((r, z.context), z.instant, z.state) ∧
      Evaluations e strict o ((Worker.stepsOf job).take k) (opening job now s) vs z ∧
      Concluded strict (Worker.stepsOf job) (opening job now s) z k vs r ∧
      ∀ before u after, vs = before ++ u :: after →
        (u.after.context.Named ↔ ∀ w ∈ before ++ [u], ¬w.Misnames e o) := by
  have hopening : (opening job now s).context.Named := Context.named_create _ _
  obtain ⟨k, vs, r, z, hrun, hvs, hr⟩ :=
    process_concludes e strict o job.actions (opening job now s)
  refine ⟨hopening, k, vs, r, z, hrun, hvs, hr, ?_⟩
  rintro before u after rfl
  obtain ⟨hbefore, hu, -⟩ := hvs.around
  rw [hu.named_iff, hbefore.named_iff, and_iff_right hopening, List.forall_mem_append]

def countedParameters : Entries :=
  [("category", .text "person"), ("function", .text "first_name"), ("variable", .int 5)]

def countedJob : Value := .object [("id", .text "t"), ("actions", .list [.object [
  ("action", .text "Faker.generate"), ("parameters", .object countedParameters)]])]

/-- A name is made and stored under a number, which no placeholder can name. -/
theorem named_by_number : ∃ job, Wire.TestJob.read countedJob = .ok job ∧
    ∃ (z : Scene Rehearsal) (out : Outcome),
      (process sampleEquipment false (Worker.stepsOf job)
        (opening job 0 ({} : Rehearsal)).context).run Rehearsal.outside 0 {} =
        ((.ok out, z.context), z.instant, z.state) ∧
      out.success = true ∧ z.context.keys.map (·.literal) = ["5"] ∧ ¬z.context.Named := by
  refine ⟨⟨"t", [⟨"Faker.generate", countedParameters⟩], [], []⟩, rfl, ?_⟩
  obtain ⟨⟨⟨r, c⟩, t, s⟩, hrun, hsuccess, hkeys, hnamed⟩ :
      ∃ w, (process sampleEquipment false
        [⟨.text "Faker.generate", .object countedParameters⟩] {}).run Rehearsal.outside 0 {} = w ∧
        w.1.1.toOption.any Outcome.success = true ∧
        w.1.2.keys.map (·.literal) = ["5"] ∧ ¬w.1.2.Named :=
    ⟨_, rfl, by decide +kernel⟩
  cases r with
  | error f => cases hsuccess
  | ok out => exact ⟨⟨c, t, s⟩, out, hrun, hsuccess, hkeys, hnamed⟩

end Test
end TestWorker
