import TestWorker.Job
import TestWorker.Proofs.Action.Atomic
import TestWorker.Proofs.Test.Stored
import TestWorker.Proofs.Test.Unread

namespace TestWorker

namespace Placeholder

/-- What comes of a placeholder by the value of its key, if it has one. -/
def standsFor (strict : Bool) (k : String) : Option Value → Except Fault Value
  | some value => .ok value
  | none => if strict then .error (.unresolved k) else .ok (.text (whole k))

theorem resolve_whole {k : String} (hk : k ≠ "") (hkey : ∀ ch ∈ k.toList, isKeyChar ch = true)
    (strict : Bool) (c : Context) :
    resolve strict c (.text (whole k)) = standsFor strict k (c.get? k) := by
  have hsegments := segments_whole hk hkey
  have hname : (⟨[], k.toList, []⟩ : Token).name = k := String.ofList_toList
  cases strict with
  | false =>
    change Except.ok (fill c (whole k)) = _
    unfold fill
    rw [hsegments]
    simp only [hname]
    cases c.get? k <;> rfl
  | true =>
    change fillStrict c (whole k) = _
    unfold fillStrict
    rw [hsegments]
    simp only [hname]
    cases c.get? k <;> rfl

theorem name_ne_empty_of_mem {v : Value} {t : Token} (h : t ∈ documentTokens v) : t.name ≠ "" := by
  obtain ⟨s, -, ht⟩ := List.mem_flatMap.1 h
  have hformed := formed_of_mem_split (mem_tokens.1 ht)
  have hlist : t.name.toList = t.key := String.toList_ofList
  intro hname
  rw [hname] at hlist
  exact hformed.named hlist.symm

end Placeholder

namespace Test
open Placeholder (documentTokens isKeyChar standsFor whole)
variable {σ : Type} {e : Equipment} {strict : Bool} {o : Outside σ}

/-- The evaluation stores what it comes to under the key. -/
def Evaluation.Stores (u : Evaluation σ) (k : String) : Prop :=
  u.outcome.success = true ∧ (∀ n p, u.action ≠ .http n p) ∧ u.variable = .text k

/-- What was drawn is noted, and the rows of a query are those that its response shows. -/
theorem Evaluation.Produces.unique {u : Evaluation σ} {v w : Value} (hv : u.Produces e o v)
    (hw : u.Produces e o w) : v = w := by
  unfold Evaluation.Produces at hv hw
  cases ha : u.action with
  | http n p =>
    rw [ha] at hv
    exact hv.elim
  | generate p =>
    rw [ha] at hv hw
    obtain ⟨d, -, hdrawn⟩ := hv
    obtain ⟨d', -, hdrawn'⟩ := hw
    rw [hdrawn] at hdrawn'
    cases hdrawn'
    rfl
  | database d p =>
    rw [ha] at hv hw
    obtain ⟨answer, rfl, hresponse⟩ := hv
    obtain ⟨answer', rfl, hresponse'⟩ := hw
    rw [hresponse] at hresponse'
    simp only [Value.object.injEq, List.cons.injEq, Prod.mk.injEq] at hresponse'
    exact hresponse'.1.2

section
variable {v : Evaluation σ} (h : v.Ran e strict o)
include h

theorem Evaluation.Ran.left : ∃ r, v.outcome.reports = [r] ∧
    Action.Left v.action.name v.action.parameters v.before.context r v.after.context := by
  obtain ⟨r, hr, -, -, hleft⟩ :=
    (Action.run_settles e v.action v.before.context).run o v.before.instant v.before.state
  rw [h.run] at hr hleft
  exact ⟨r, hr, hleft⟩

theorem Evaluation.Ran.context_of_http {n : String} {p : Entries} (ha : v.action = .http n p) :
    v.after.context = v.before.context := by
  have hrun := h.run
  rw [ha] at hrun
  have hsettles :=
    (Action.http_run_settles e n p [] v.before.context).run o v.before.instant v.before.state
  rw [hrun] at hsettles
  exact hsettles.eq_of_nil

theorem Evaluation.Ran.of_failure (hv : v.outcome.success = false) :
    v.after.context = v.before.context ∨ ∃ r, v.outcome.reports = [r] ∧
      Action.Untold v.action.name v.variable v.before.context v.after.context r := by
  obtain ⟨r, hr, hleft⟩ := h.left
  have hr' : r.success = false := by simpa [Outcome.success, hr] using hv
  exact (hleft.of_failure hr').imp id fun huntold => ⟨r, hr, huntold⟩

theorem Evaluation.Ran.get?_eq (hv : v.outcome.success = true) {k : String} (hk : ¬v.Stores k) :
    v.after.context.get? k = v.before.context.get? k := by
  by_cases hhttp : ∃ n p, v.action = .http n p
  · obtain ⟨n, p, ha⟩ := hhttp
    rw [h.context_of_http ha]
  · have haction : ∀ n p, v.action ≠ .http n p := fun n p ha => hhttp ⟨n, p, ha⟩
    obtain ⟨value, -, hstored⟩ := h.stores hv haction
    exact Context.get?_of_store hstored fun hvariable => hk ⟨hv, haction, hvariable⟩

end

theorem Evaluations.get?_of_not_stores {steps : List Step} {x z : Scene σ}
    {vs : List (Evaluation σ)} (h : Evaluations e strict o steps x vs z)
    (hok : ∀ v ∈ vs, v.outcome.success = true) {k : String} (hk : ∀ v ∈ vs, ¬v.Stores k) :
    z.context.get? k = x.context.get? k := by
  induction h with
  | nil => rfl
  | @cons s _ x y _ _ a out _ hp hb hrun _ ih =>
    obtain ⟨hv, hvs⟩ := List.forall_mem_cons.1 hk
    obtain ⟨hout, hoks⟩ := List.forall_mem_cons.1 hok
    have hran : (⟨s, a, x, out, y⟩ : Evaluation σ).Ran e strict o := ⟨⟨_, hp, hb⟩, hrun⟩
    exact (ih hoks hvs).trans (hran.get?_eq hout hv)

theorem exists_last {α : Type} {P : α → Prop} {l : List α} (h : ∃ a ∈ l, P a) :
    ∃ before a after, l = before ++ a :: after ∧ P a ∧ ∀ b ∈ after, ¬P b := by
  induction l with
  | nil => simp at h
  | cons b l ih =>
    by_cases hl : ∃ a ∈ l, P a
    · obtain ⟨before, a, after, rfl, ha, hafter⟩ := ih hl
      exact ⟨b :: before, a, after, rfl, ha, hafter⟩
    · have hnone : ∀ a ∈ l, ¬P a := fun a ha hP => hl ⟨a, ha, hP⟩
      obtain ⟨a, ha, hP⟩ := h
      rcases List.mem_cons.1 ha with rfl | ha
      · exact ⟨[], a, l, rfl, hP, hnone⟩
      · exact absurd hP (hnone a ha)

/-- What a key stands for after these evaluations: what the last of them that stored under it has
stored; if none did, its value in the environment, else its value in the test, else nothing. -/
inductive Scoped (e : Equipment) (o : Outside σ) (test environment : Entries)
    (k : String) (vs : List (Evaluation σ)) : Option Value → Prop
  | stored {before after : List (Evaluation σ)} {u : Evaluation σ} {value : Value} :
      vs = before ++ u :: after → u.Stores k → (∀ w ∈ after, ¬w.Stores k) → u.Produces e o value →
      Scoped e o test environment k vs (some value)
  | environment {value : Value} : (∀ u ∈ vs, ¬u.Stores k) →
      Entries.last? environment k = some value →
      Scoped e o test environment k vs (some value)
  | test {value : Value} : (∀ u ∈ vs, ¬u.Stores k) → Entries.last? environment k = none →
      Entries.last? test k = some value → Scoped e o test environment k vs (some value)
  | unbound : (∀ u ∈ vs, ¬u.Stores k) → Entries.last? environment k = none →
      Entries.last? test k = none →
      Scoped e o test environment k vs none

section
variable {first : List Step} {x y : Scene σ} {vs : List (Evaluation σ)}
  {test environment : Entries} {k : String}
  (hx : x.context = Context.create test environment) (h : Evaluations e strict o first x vs y)
  (hok : ∀ v ∈ vs, v.outcome.success = true)
include hx h hok

theorem get?_of_scoped (hk : k ≠ "") {found : Option Value}
    (hs : Scoped e o test environment k vs found) : y.context.get? k = found := by
  cases hs with
  | @stored before after u value hvs hu hafter hvalue =>
    subst hvs
    obtain ⟨hsuccess, haction, hvariable⟩ := hu
    obtain ⟨value', hvalue', hstored⟩ := (h.ran u (by simp)).stores hsuccess haction
    rw [hvariable, hvalue'.unique hvalue] at hstored
    obtain ⟨-, -, hlast⟩ := h.around
    rw [hlast.get?_of_not_stores (fun w hw => hok w (by simp [hw])) hafter,
      Context.get?_of_store_self hk hstored]
  | environment hnone hvalue =>
    rw [h.get?_of_not_stores hok hnone, hx, Context.get?_create, hvalue, Option.some_or]
  | test hnone hmissing hvalue =>
    rw [h.get?_of_not_stores hok hnone, hx, Context.get?_create, hmissing, hvalue, Option.none_or]
  | unbound hnone hmissing hvalue =>
    rw [h.get?_of_not_stores hok hnone, hx, Context.get?_create, hmissing, hvalue, Option.none_or]

omit hx hok in
theorem exists_scoped (test environment : Entries) (k : String) :
    ∃ found, Scoped e o test environment k vs found := by
  by_cases hstores : ∃ u ∈ vs, u.Stores k
  · obtain ⟨before, u, after, hvs, hu, hafter⟩ := exists_last hstores
    obtain ⟨value, hvalue, -⟩ := (h.ran u (by simp [hvs])).stores hu.1 hu.2.1
    exact ⟨_, .stored hvs hu hafter hvalue⟩
  · have hnone : ∀ u ∈ vs, ¬u.Stores k := fun u hu hP => hstores ⟨u, hu, hP⟩
    cases henvironment : Entries.last? environment k with
    | some value => exact ⟨_, .environment hnone henvironment⟩
    | none =>
      cases htest : Entries.last? test k with
      | some value => exact ⟨_, .test hnone henvironment htest⟩
      | none => exact ⟨_, .unbound hnone henvironment htest⟩

theorem scoped_iff (hk : k ≠ "") {found : Option Value} :
    Scoped e o test environment k vs found ↔ y.context.get? k = found := by
  constructor
  · exact get?_of_scoped hx h hok hk
  · rintro rfl
    obtain ⟨found, hfound⟩ := exists_scoped h test environment k
    rwa [get?_of_scoped hx h hok hk hfound]

end

/-- A step that a test comes to is filled in by what its keys stand for, whatever the steps before
it did: what the last of them has stored under a key, else the value of the environment, else that
of the test, and a key with none of them is unresolved. Its parameters depend on nothing else, not
on its own run either. A step that sends a request leaves the variables as they were; one that fails
is the last one, so that nothing is filled in after it, and leaves them so too, unless it has stored
what it cannot tell. -/
theorem placeholders_scoped {job : Wire.TestJob} {first rest : List Step} {s : Step} {x y : Scene σ}
    {vs : List (Evaluation σ)} (hx : x.context = Context.create job.testVariables job.envVariables)
    (hsteps : Worker.stepsOf job = first ++ s :: rest)
    (hvalid : validate x.context (Worker.stepsOf job) = .ok ())
    (h : Evaluations e strict o first x vs y) (hok : ∀ v ∈ vs, v.outcome.success = true) :
    ((process e strict (Worker.stepsOf job) x.context).run o x.instant x.state =
      (runSteps e strict (s :: rest) y.context (({} : Progress).after vs)).run
        o y.instant y.state) ∧
    (∀ k, k ≠ "" → (∀ ch ∈ k.toList, isKeyChar ch = true) →
      ∃ found, (∀ w, Scoped e o job.testVariables job.envVariables k vs w ↔ w = found) ∧
        Placeholder.resolve strict y.context (.text (whole k)) = standsFor strict k found) ∧
    (∀ c : Context, (∀ t ∈ documentTokens s.parameters,
        Scoped e o job.testVariables job.envVariables t.name vs (c.get? t.name)) →
      Placeholder.resolve strict y.context s.parameters =
        Placeholder.resolve strict c s.parameters) ∧
    ∀ (v : Evaluation σ) (z : Scene σ), Evaluations e strict o [s] y [v] z →
      (∃ p, Placeholder.resolve strict y.context s.parameters = .ok p ∧
        Action.build s.action p = .ok v.action) ∧
      ((∃ n p, v.action = .http n p) → z.context = y.context) ∧
      (v.outcome.success = false →
        (process e strict (Worker.stepsOf job) x.context).run o x.instant x.state =
          ((.ok ((({} : Progress).after vs).add v.outcome).outcome, z.context),
            z.instant, z.state) ∧
        (process e strict (Worker.stepsOf job) x.context).trace o x.instant x.state =
          ⟨x.instant, .clock, x.instant⟩ :: (vs ++ [v]).flatMap (·.effects e o) ∧
        (z.context = y.context ∨ ∃ r, v.outcome.reports = [r] ∧
          Action.Untold v.action.name v.variable y.context z.context r)) := by
  have hne : Worker.stepsOf job ≠ [] := by simp [hsteps]
  obtain ⟨hprocess, hprocesses⟩ := process_of_validate e strict o hne hvalid
  obtain ⟨hrest, hrests⟩ := runSteps_evaluated h hok (s :: rest) {}
  rw [hsteps] at hprocess hprocesses ⊢
  rw [hprocess, hprocesses, hrest, hrests]
  refine ⟨rfl, ?_, ?_, ?_⟩
  · intro k hk hkey
    refine ⟨y.context.get? k, fun w => (scoped_iff hx h hok hk).trans eq_comm, ?_⟩
    exact Placeholder.resolve_whole hk hkey strict y.context
  · intro c hc
    refine Placeholder.resolve_congr (fun t ht => ?_) strict
    exact (scoped_iff hx h hok (Placeholder.name_ne_empty_of_mem ht)).1 (hc t ht)
  · intro v z hv
    have hran := hv.ran v (by simp)
    cases hv with
    | cons hp hb hrun hnil =>
      cases hnil
      refine ⟨⟨_, hp, hb⟩, fun ⟨n, p, ha⟩ => hran.context_of_http ha, fun hfailed => ?_⟩
      obtain ⟨hends, htrace⟩ := runSteps_failed hp hb hrun hfailed rest (({} : Progress).after vs)
      refine ⟨hends, ?_, hran.of_failure hfailed⟩
      rw [htrace, List.flatMap_append, List.flatMap_singleton]
      rfl

def namingParameters : Entries :=
  [("category", .text "person"), ("function", .text "first_name"), ("variable", .text "a")]

def shadowingJob : Wire.TestJob where
  id := "t"
  actions := [⟨"Faker.generate", namingParameters⟩, ⟨"Http.get", [("url", .text (whole "a"))]⟩]
  testVariables := [("a", .text "test"), ("b", .text "test"), ("c", .text "test")]
  envVariables := [("a", .text "environment"), ("b", .text "environment")]

def shadowingScene : Scene Rehearsal :=
  ⟨Context.create shadowingJob.testVariables shadowingJob.envVariables, 0, {}⟩

def naming : Evaluation Rehearsal :=
  rehearse sampleEquipment ⟨.text "Faker.generate", .object namingParameters⟩
    (.generate namingParameters) shadowingScene

theorem evaluations_naming :
    Evaluations sampleEquipment true Rehearsal.outside [naming.step]
      shadowingScene [naming] naming.after := by
  have hnaming : Placeholder.resolve true shadowingScene.context (.object namingParameters) =
      .ok (.object namingParameters) := by
    cbv
  exact .cons hnaming (congrArg (fun r => r >>= fun es => pure (Action.generate es))
    (Action.parametersOf_object namingParameters)) rfl .nil

theorem placeholders_scoped_shadowing :
    Placeholder.resolve true naming.after.context (.text (whole "a")) = .ok (.text "Ann") ∧
    Placeholder.resolve true naming.after.context (.text (whole "b")) = .ok (.text "environment") ∧
    Placeholder.resolve true naming.after.context (.text (whole "c")) = .ok (.text "test") ∧
    Placeholder.resolve true naming.after.context (.text (whole "d")) =
      .error (.unresolved "d") := by
  have hsuccess : naming.outcome.success = true := by decide +kernel
  have haccepted : ∀ step ∈ shadowingJob.actions, ¬Rejected shadowingScene.context step := by
    decide +kernel
  have hvalid : validate shadowingScene.context (Worker.stepsOf shadowingJob) = .ok () :=
    validate_of_not_rejected haccepted
  obtain ⟨-, hkeys, -⟩ :=
    placeholders_scoped rfl rfl hvalid evaluations_naming (by simpa using hsuccess)
  have hstores : naming.Stores "a" := ⟨hsuccess, (by intro n p hn; cases hn), rfl⟩
  have hothers : ∀ k, k ≠ "a" → ∀ u ∈ [naming], ¬u.Stores k := by
    intro k hk u hu hstored
    obtain rfl : u = naming := List.mem_singleton.1 hu
    exact hk (Value.text.inj (hstored.2.2.symm.trans hstores.2.2))
  have hann : naming.Produces sampleEquipment Rehearsal.outside (.text "Ann") := by
    obtain ⟨value, hvalue, hstored⟩ :=
      (evaluations_naming.ran naming (by simp)).stores hsuccess (by intro n p hn; cases hn)
    have hfound : naming.after.context.get? "a" = some value :=
      Context.get?_of_store_self (by decide) hstored
    have hname : (naming.after.context.get? "a").any (·.sameKey (.text "Ann")) = true := by
      decide +kernel
    rw [hfound] at hname
    obtain rfl : value = .text "Ann" := Value.sameKey_text.1 hname
    exact hvalue
  have hkey : ∀ k ∈ ["a", "b", "c", "d"], k ≠ "" ∧ k.toList.all isKeyChar = true := by
    decide +kernel
  have hresolve : ∀ k ∈ ["a", "b", "c", "d"], ∀ found,
      Scoped sampleEquipment Rehearsal.outside shadowingJob.testVariables
        shadowingJob.envVariables k [naming] found →
      Placeholder.resolve true naming.after.context (.text (whole k)) = standsFor true k found := by
    intro k hk found hscoped
    obtain ⟨found', hfound, hwhole⟩ := hkeys k (hkey k hk).1 (List.all_eq_true.1 (hkey k hk).2)
    rw [hwhole, (hfound found).1 hscoped]
  refine ⟨hresolve "a" (by simp) _ (.stored (List.nil_append [naming]).symm hstores (by simp) hann),
    hresolve "b" (by simp) _ (.environment (hothers "b" (by decide)) rfl),
    hresolve "c" (by simp) _ (.test (hothers "c" (by decide)) rfl rfl),
    hresolve "d" (by simp) _ (.unbound (hothers "d" (by decide)) rfl rfl)⟩

end Test
end TestWorker
