import TestWorker.Shift
import TestWorker.Proofs.Crew.Twins

namespace TestWorker
variable {τ S σ : Type} {ρ : τ → Type} {C : Web.Request → Web.Request → Prop} {R : S → S → Prop}

/-- Routines that begin and react alike, and tell the schedule the same. -/
structure Routine.Twins (C : Web.Request → Web.Request → Prop)
    (R : S → S → Prop) (p q : Routine ρ S) : Prop where
  begin n {s t} : R s t → (p.begin n s).Twins C R (q.begin n t)
  react now t (r : ρ t) {s s'} : R s s' → (p.react now t r s).1.Twins C R (q.react now t r s').1 ∧
    (p.react now t r s).2 = (q.react now t r s').2

namespace Shift

/-- Everything but the work is the same. -/
structure Twins (R : S → S → Prop) (s t : Shift S) : Prop where
  schedule : s.schedule = t.schedule
  work : R s.work t.work
  results : s.results = t.results

theorem forall₂_inner {xs ys : List (Strand ρ)} (h : List.Forall₂ (Strand.Twins C) xs ys) :
    List.Forall₂ (Strand.Twins C) (xs.map inner) (ys.map inner) := by
  induction h with
  | nil => exact .nil
  | cons hxy _ ih =>
    cases hxy with
    | mk hab => exact .cons (.mk hab) ih

variable {s t : Shift S}

theorem follow_twins (c : Console) (h : s.Twins R t) (x : Schedule × List Schedule.Command) :
    (follow (ρ := ρ) c s x).Twins C (Twins R) (follow c t x) :=
  ⟨⟨rfl, h.work, h.results⟩, Strand.forall₂_refl C _, Strand.forall₂_refl C _⟩

theorem heed_twins (c : Console) {x y : Reaction (Tag.Result ρ) (Shift S)}
    (h : x.Twins C (Twins R) y) (signal : Signal) :
    (heed c x signal).Twins C (Twins R) (heed c y signal) := by
  obtain ⟨hstate, hfirst, hlater⟩ := h
  cases signal with
  | stop =>
    unfold heed
    rw [hstate.schedule]
    obtain ⟨hstate', hfirst', hlater'⟩ :=
      follow_twins (C := C) (ρ := ρ) c hstate y.state.schedule.stop
    exact ⟨hstate', List.rel_append hfirst hfirst', List.rel_append hlater hlater'⟩
  | cycleEnded n outcome =>
    exact ⟨hstate, List.rel_append hfirst (Strand.forall₂_refl C _), hlater⟩

theorem foldl_heed_twins (c : Console) (signals : List Signal)
    {x y : Reaction (Tag.Result ρ) (Shift S)} (h : x.Twins C (Twins R) y) :
    (signals.foldl (heed c) x).Twins C (Twins R) (signals.foldl (heed c) y) := by
  induction signals generalizing x y with
  | nil => exact h
  | cons signal signals ih => exact ih (heed_twins c h signal)

theorem plan_twins (c : Console) {p q : Routine ρ S} (h : p.Twins C R q) :
    Plan.Twins C (Twins R) (plan c p) (plan c q) := by
  rintro now tag result ⟨schedule, work, results⟩ ⟨_, work', _⟩ ⟨rfl, hwork, rfl⟩
  have hfollow := follow_twins (C := C) (ρ := ρ) (s := ⟨schedule, work, results⟩)
    (t := ⟨schedule, work', results⟩) c ⟨rfl, hwork, rfl⟩
  cases tag with
  | run => exact hfollow _
  | stop => exact hfollow _
  | interval => exact hfollow _
  | resume turns =>
    cases turns with
    | zero => exact hfollow _
    | succ turns => exact ⟨⟨rfl, hwork, rfl⟩, .nil, Strand.forall₂_refl C _⟩
  | opening n =>
    obtain ⟨hstate, hfirst, hlater⟩ := h.begin n hwork
    exact ⟨⟨rfl, hstate, rfl⟩, forall₂_inner hfirst, forall₂_inner hlater⟩
  | closing n => exact hfollow _
  | notice => exact ⟨⟨rfl, hwork, rfl⟩, .nil, .nil⟩
  | farewell n => exact ⟨⟨rfl, hwork, rfl⟩, .nil, .nil⟩
  | inner t =>
    -- the work may tell the schedule something, and both schedules are told the same
    obtain ⟨⟨hstate, hfirst, hlater⟩, hsignals⟩ := h.react now t result hwork
    unfold plan
    dsimp only
    rw [hsignals]
    exact foldl_heed_twins c _ ⟨⟨rfl, hstate, rfl⟩, forall₂_inner hfirst, forall₂_inner hlater⟩

theorem serve_twins (c : Console) {p q : Routine ρ S} (h : p.Twins C R q)
    {V : σ → σ → Prop} {o : Outside σ} (ho : o.Blind C V) (fuel : Nat)
    {x y : Crew (Tag.Result ρ) (Shift S) σ} (hxy : Crew.Twins C (Twins R) V x y) :
    Crew.Twins C (Twins R) V (serve c p o fuel x) (serve c q o fuel y) := by
  have hready : Crew.Twins C (Twins R) V (ready x) (ready y) :=
    { hxy with ready := List.rel_append hxy.ready (Strand.forall₂_refl C _) }
  unfold serve
  rw [hxy.state.results]
  exact hready.runUntil (plan_twins c h) ho (fun s t hst => by rw [hst.results]) fuel

end Shift
end TestWorker
