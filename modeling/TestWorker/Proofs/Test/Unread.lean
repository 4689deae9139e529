import TestWorker.Proofs.Action.Silence
import TestWorker.Proofs.Context.Agreement
import TestWorker.Proofs.Crew.Twins
import TestWorker.Proofs.Placeholder.Strict
import TestWorker.Rehearsal
import TestWorker.Test

namespace TestWorker

namespace Placeholder

mutual

theorem mapTexts_congr {f g : String → Value} :
    ∀ {v : Value}, (∀ s ∈ leafTexts v, f s = g s) →
      Id.run (mapTexts (fun s => pure (f s)) v) = Id.run (mapTexts (fun s => pure (g s)) v)
  | .text s, h => h s (by simp [leafTexts])
  | .list _, h => congrArg Value.list (mapItems_congr h)
  | .object _, h => congrArg Value.object (mapEntries_congr h)
  | .null, _ | .bool _, _ | .int _, _ | .float _, _ | .bytes _, _ | .decimal _, _ | .date _, _
  | .tuple _, _ => rfl

theorem mapItems_congr {f g : String → Value} :
    ∀ {vs : List Value}, (∀ s ∈ itemTexts vs, f s = g s) →
      Id.run (mapItems (fun s => pure (f s)) vs) = Id.run (mapItems (fun s => pure (g s)) vs)
  | [], _ => rfl
  | v :: vs, h => by
    have hv := mapTexts_congr (v := v) fun s hs => h s (List.mem_append_left _ hs)
    have hvs := @mapItems_congr f g vs fun s hs => h s (List.mem_append_right _ hs)
    rw [mapItems_id, mapItems_id] at hvs ⊢
    rw [List.map_cons, List.map_cons, hv, hvs]

theorem mapEntries_congr {f g : String → Value} :
    ∀ {es : Entries}, (∀ s ∈ entryTexts es, f s = g s) →
      Id.run (mapEntries (fun s => pure (f s)) es) = Id.run (mapEntries (fun s => pure (g s)) es)
  | [], _ => rfl
  | (k, v) :: es, h => by
    have hv := mapTexts_congr (v := v) fun s hs => h s (List.mem_append_left _ hs)
    have hes := @mapEntries_congr f g es fun s hs => h s (List.mem_append_right _ hs)
    rw [mapEntries_id, mapEntries_id] at hes ⊢
    rw [List.map_cons, List.map_cons, hv, hes]

end

variable {b : String} {c c' : Context} {v : Value}

theorem substitute_congr (h : ∀ t ∈ documentTokens v, c.get? t.name = c'.get? t.name) :
    substitute c v = substitute c' v :=
  mapTexts_congr fun s hs => fill_congr fun t ht => h t (List.mem_flatMap.2 ⟨s, hs, ht⟩)

theorem resolve_congr (h : ∀ t ∈ documentTokens v, c.get? t.name = c'.get? t.name) (strict : Bool) :
    resolve strict c v = resolve strict c' v := by
  have hunbound : (documentTokens v).find? (unbound c) = (documentTokens v).find? (unbound c') :=
    List.find?_congr fun t ht => congrArg Option.isNone (h t ht)
  cases strict with
  | false => exact congrArg _ (substitute_congr h)
  | true =>
    change substituteStrict c v = substituteStrict c' v
    rw [substituteStrict_eq, substituteStrict_eq, hunbound, substitute_congr h]

def Unnamed (b : String) (v : Value) : Prop := ∀ t ∈ documentTokens v, t.name ≠ b

theorem Unnamed.substitute (hv : Unnamed b v) (h : c.AgreeExcept b c') :
    substitute c v = substitute c' v :=
  substitute_congr fun t ht => h.get? (hv t ht)

theorem Unnamed.resolve (hv : Unnamed b v) (h : c.AgreeExcept b c') (strict : Bool) :
    resolve strict c v = resolve strict c' v :=
  resolve_congr (fun t ht => h.get? (hv t ht)) strict

end Placeholder

namespace Activity
variable {α β σ : Type} {R : α → β → Prop} {a : Activity α} {b : Activity β}

theorem Twins.run (h : Twins Eq R a b) (o : Outside σ) (now : Instant) (s : σ) :
    a.trace o now s = b.trace o now s ∧ (a.run o now s).2 = (b.run o now s).2 ∧
      R (a.run o now s).1 (b.run o now s).1 := by
  induction h generalizing now s with
  | done hxy => exact ⟨rfl, rfl, hxy⟩
  | @same e f g _ ih =>
    obtain ⟨htrace, hend, hR⟩ :=
      ih (o.reply e now s).value (now + (o.reply e now s).delay) (o.reply e now s).state
    exact ⟨congrArg _ htrace, hend, hR⟩
  | @exchange q r f g hqr _ ih =>
    subst hqr
    obtain ⟨htrace, hend, hR⟩ := ih (o.reply (.exchange q) now s).value
      (now + (o.reply (.exchange q) now s).delay) (o.reply (.exchange q) now s).state
    exact ⟨congrArg _ htrace, hend, hR⟩

end Activity

/-- The same result, and variables that agree but for the one. -/
def AgreeApart (b : String) {α : Type} (x y : α × Context) : Prop :=
  x.1 = y.1 ∧ x.2.AgreeExcept b y.2

namespace Action
variable {α : Type} {b : String} {c c' : Context}

/-- Work that may store, but reads no variable. -/
def Work.Unreading (b : String) (w : Work α) : Prop :=
  ∀ c c' : Context, c.AgreeExcept b c' → (w.outcome c).Twins Eq (AgreeApart b) (w.outcome c')

theorem Work.Composed.unreading {w : Work α} (h : w.Composed) : w.Unreading b := by
  induction h with
  | @of _ t _ =>
    exact fun _ _ hagree => (Activity.twins_refl Eq t.outcome).bind_eq fun _ => .done ⟨rfl, hagree⟩
  | pure a => exact fun _ _ hagree => .done ⟨rfl, hagree⟩
  | throw f => exact fun _ _ hagree => .done ⟨rfl, hagree⟩
  | store name v =>
    intro c c' hagree
    rw [outcome_store, outcome_store]
    rcases hagree.store name v with ⟨f, hc, hc'⟩ | ⟨d, d', hd, hd', hstored⟩
    · rw [hc, hc']
      exact .done ⟨rfl, hagree⟩
    · rw [hd, hd']
      exact .done ⟨rfl, hstored⟩
  | bind _ _ ihw ihf =>
    intro c c' hagree
    rw [outcome_bind, outcome_bind]
    refine (ihw c c' hagree).bind ?_
    rintro ⟨x, d⟩ ⟨_, d'⟩ ⟨rfl, hd⟩
    cases x with
    | ok a => exact ihf a d d' hd
    | error e => exact .done ⟨rfl, hd⟩

theorem run_unreading (e : Equipment) (a : Action) (h : c.AgreeExcept b c') :
    (a.run e c).Twins Eq (AgreeApart b) (a.run e c') := by
  unfold run undertake
  refine (Activity.twins_refl Eq Activity.now).bind_eq fun started => ?_
  refine ((work_composed e a started).unreading c c' h).bind ?_
  rintro ⟨x, d⟩ ⟨_, d'⟩ ⟨rfl, hd⟩
  cases x with
  | ok o => exact (Activity.twins_refl Eq _).bind_eq fun _ => .done ⟨rfl, hd⟩
  | error f => exact (Activity.twins_refl Eq _).bind_eq fun _ => .done ⟨rfl, hd⟩

end Action

namespace Test
open Placeholder (Unnamed)
variable {b : String} {c c' : Context} {steps : List Step}

theorem validate_unread (hsteps : ∀ s ∈ steps, Unnamed b s.parameters) (h : c.AgreeExcept b c') :
    validate c steps = validate c' steps := by
  unfold validate
  induction steps with
  | nil => rfl
  | cons s steps ih =>
    have hs : validateStep c s = validateStep c' s := by
      unfold validateStep
      rw [(hsteps s List.mem_cons_self).substitute h]
    change (do validateStep c s; steps.forM (validateStep c)) = do
      validateStep c' s
      steps.forM (validateStep c')
    rw [hs, ih fun s hs => hsteps s (List.mem_cons_of_mem _ hs)]

/-- The induction is on the steps that are left: each starts with variables that agree, and is
filled in alike. -/
theorem runSteps_unread (e : Equipment) (strict : Bool) (p : Progress)
    (hsteps : ∀ s ∈ steps, Unnamed b s.parameters) (h : c.AgreeExcept b c') :
    (runSteps e strict steps c p).Twins Eq (AgreeApart b) (runSteps e strict steps c' p) := by
  induction steps generalizing c c' p with
  | nil => exact .done ⟨rfl, h⟩
  | cons s steps ih =>
    rw [runSteps, runSteps, (hsteps s List.mem_cons_self).resolve h]
    split
    · exact .done ⟨rfl, h⟩
    split
    · refine (Activity.twins_refl Eq Activity.now).bind_eq fun t => ?_
      exact (Activity.twins_refl Eq (Activity.since t)).bind_eq fun time => .done ⟨rfl, h⟩
    · exact .done ⟨rfl, h⟩
    · next a _ =>
      refine (Action.run_unreading e a h).bind ?_
      rintro ⟨o, d⟩ ⟨_, d'⟩ ⟨rfl, hd⟩
      dsimp only
      split
      · exact ih (p.add o) (fun s hs => hsteps s (List.mem_cons_of_mem _ hs)) hd
      · exact .done ⟨rfl, hd⟩

theorem process_twins (e : Equipment) (strict : Bool) (hsteps : ∀ s ∈ steps, Unnamed b s.parameters)
    (h : c.AgreeExcept b c') :
    (process e strict steps c).Twins Eq (AgreeApart b) (process e strict steps c') := by
  unfold process
  refine (Activity.twins_refl Eq Activity.now).bind_eq fun started => ?_
  split
  · exact (Activity.twins_refl Eq (Activity.since started)).bind_eq fun _ => .done ⟨rfl, h⟩
  rw [validate_unread hsteps h]
  split
  · exact (Activity.twins_refl Eq (Activity.since started)).bind_eq fun _ => .done ⟨rfl, h⟩
  · exact .done ⟨rfl, h⟩
  · exact runSteps_unread e strict {} hsteps h

/-- A variable that no text of the steps names makes no difference: with variables that agree but
for it, a test asks for the same at the same times, is replied the same and comes to the same
outcome or fault, and what is left of the variables agrees but for it again. -/
theorem process_unread (e : Equipment) (strict : Bool)
    {steps : List Step} {b : String} {c c' : Context}
    (hsteps : ∀ s ∈ steps, ∀ t ∈ Placeholder.documentTokens s.parameters, t.name ≠ b)
    (h : c.AgreeExcept b c') {σ : Type} (o : Outside σ) (now : Instant) (s : σ) :
    (process e strict steps c).trace o now s = (process e strict steps c').trace o now s ∧
    ((process e strict steps c).run o now s).2 = ((process e strict steps c').run o now s).2 ∧
    ((process e strict steps c).run o now s).1.1 = ((process e strict steps c').run o now s).1.1 ∧
    ((process e strict steps c).run o now s).1.2.AgreeExcept b
      ((process e strict steps c').run o now s).1.2 :=
  (process_twins e strict hsteps h).run o now s

def deceptiveEquipment : Equipment :=
  ⟨⟨some .targets, false⟩,
    [Provider.english "person" [Provider.sample "first_name" "\x7b\x7bkey\x7d\x7d"]]⟩

def deceptiveSteps : List Step := [
  ⟨.text "Faker.generate", .object [("category", .text "person"), ("function", .text "first_name"),
    ("variable", .text "note")]⟩,
  ⟨.text "Database.query", .object [("dialect", .text "sqlite"),
    ("connection", .text "sqlite+aiosqlite:///x.db"),
    ("query", .text "select '\x7b\x7bnote\x7d\x7d'")]⟩]

def queriesOf (ms : List Moment) : List String :=
  ms.filterMap fun m => match m.effect with
    | .query s => some s.sql
    | _ => none

theorem process_unread_deceptive :
    (∀ s ∈ deceptiveSteps, ∀ t ∈ Placeholder.documentTokens s.parameters, t.name ≠ "key") ∧
    Context.AgreeExcept "key" ⟨[(.text "key", .int 1)]⟩ ⟨[(.text "key", .int 2)]⟩ ∧
    queriesOf ((process deceptiveEquipment false deceptiveSteps ⟨[(.text "key", .int 1)]⟩).trace
      Rehearsal.outside 0 {}) = ["select '\x7b\x7bkey\x7d\x7d'"] ∧
    (process deceptiveEquipment false deceptiveSteps ⟨[(.text "key", .int 1)]⟩).trace
        Rehearsal.outside 0 {} =
      (process deceptiveEquipment false deceptiveSteps ⟨[(.text "key", .int 2)]⟩).trace
        Rehearsal.outside 0 {} := by
  have hunnamed : ∀ s ∈ deceptiveSteps, ∀ t ∈ Placeholder.documentTokens s.parameters,
      t.name ≠ "key" := by
    decide +kernel
  have hagree : Context.AgreeExcept "key" ⟨[(.text "key", .int 1)]⟩ ⟨[(.text "key", .int 2)]⟩ := by
    intro key hkey
    have hother : (Value.text "key").sameKey key = false := by
      rw [← Bool.not_eq_true]
      exact fun h => hkey (Value.sameKey_text.1 (Value.sameKey_symm h))
    simp [Context.lookup, hother]
  refine ⟨hunnamed, hagree, by decide +kernel, ?_⟩
  exact (process_unread deceptiveEquipment false hunnamed hagree Rehearsal.outside 0 {}).1

end Test
end TestWorker
