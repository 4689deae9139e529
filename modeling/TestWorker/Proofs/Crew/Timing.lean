import Mathlib.Data.List.TakeWhile
import TestWorker.Proofs.Crew

namespace TestWorker

theorem Activity.delay_pos {σ α : Type} {o : Outside σ} {a rest : Activity α}
    {now : Instant} {s w : σ} {delay : Nat} (h : a.advance o now s = (.waiting delay rest, w)) :
    0 < delay := by
  induction a generalizing s with
  | done result => simp [advance] at h
  | ask e next ih =>
    simp only [advance] at h
    split at h
    · exact ih _ h
    · obtain ⟨⟨rfl, -⟩, -⟩ : (_ ∧ _) ∧ _ := by simpa using h
      omega

namespace Crew

variable {τ S σ : Type} {ρ : τ → Type}

/-- The alarms go off in order, and none is due yet. -/
structure Timely (c : Crew ρ S σ) : Prop where
  sorted : c.alarms.Pairwise fun a b => a.due ≤ b.due
  later : ∀ a ∈ c.alarms, c.now < a.due

/-- All strands that are not at their end, each with the time at which it goes on. -/
def dated (c : Crew ρ S σ) : Multiset (Instant × Strand ρ) :=
  (c.ready.map (c.now, ·) : List (Instant × Strand ρ)) +
    (c.alarms.map fun a => (a.due, a.strand) : List (Instant × Strand ρ))

theorem map_snd_dated (c : Crew ρ S σ) : c.dated.map Prod.snd = c.strands := by
  simp [dated, strands, Function.comp_def]

theorem timely_of_no_alarms {c : Crew ρ S σ} (h : c.alarms = []) : c.Timely := by
  refine ⟨?_, ?_⟩ <;> simp [h]

theorem sorted_schedule (a : Alarm ρ) {as : List (Alarm ρ)}
    (h : as.Pairwise fun a b => a.due ≤ b.due) :
    (schedule a as).Pairwise fun a b => a.due ≤ b.due := by
  induction as with
  | nil => exact List.pairwise_singleton _ _
  | cons b bs ih =>
    rw [List.pairwise_cons] at h
    simp only [schedule]
    split
    · next hlt =>
      refine List.pairwise_cons.2 ⟨fun x hx => ?_, List.pairwise_cons.2 h⟩
      rcases List.mem_cons.1 hx with rfl | hx
      · exact Nat.le_of_lt hlt
      · exact Nat.le_trans (Nat.le_of_lt hlt) (h.1 x hx)
    · next hle =>
      refine List.pairwise_cons.2 ⟨fun x hx => ?_, ih h.2⟩
      rcases List.mem_cons.1 ((schedule_perm a bs).mem_iff.1 hx) with rfl | hx
      · exact Nat.le_of_not_lt hle
      · exact h.1 x hx

theorem due_of_mem_takeWhile {a x : Alarm ρ} {as : List (Alarm ρ)}
    (h : (a :: as).Pairwise fun a b => a.due ≤ b.due)
    (hx : x ∈ (a :: as).takeWhile (·.due ≤ a.due)) : x.due = a.due := by
  have hle : x.due ≤ a.due := by simpa using List.mem_takeWhile_imp hx
  rcases List.mem_cons.1 ((List.takeWhile_prefix _).subset hx) with rfl | hx
  · rfl
  · exact Nat.le_antisymm hle ((List.pairwise_cons.1 h).1 x hx)

theorem due_of_mem_dropWhile {x : Alarm ρ} {as : List (Alarm ρ)} {t : Instant}
    (h : as.Pairwise fun a b => a.due ≤ b.due) (hx : x ∈ as.dropWhile (·.due ≤ t)) : t < x.due := by
  induction as with
  | nil => cases hx
  | cons a as ih =>
    rw [List.pairwise_cons] at h
    rw [List.dropWhile_cons] at hx
    split at hx
    · exact ih h.2 hx
    · next hlt =>
      have hlt : t < a.due := by simpa using hlt
      rcases List.mem_cons.1 hx with rfl | hx
      · exact hlt
      · exact Nat.lt_of_lt_of_le hlt (h.1 x hx)

theorem Timely.wake {c : Crew ρ S σ} (h : c.Timely) : c.wake.Timely := by
  unfold Crew.wake
  split
  · exact h
  · exact ⟨h.sorted.sublist (List.dropWhile_sublist _),
      fun x hx => due_of_mem_dropWhile h.sorted hx⟩

theorem Timely.dated_wake {c : Crew ρ S σ} (h : c.Timely) (hready : c.ready = []) :
    c.wake.dated = c.dated := by
  unfold Crew.wake
  split
  · rfl
  · next a as halarms =>
    have hsorted := h.sorted
    rw [halarms] at hsorted
    have hdue : ((c.alarms.takeWhile (·.due ≤ a.due)).map (·.strand)).map (a.due, ·) =
        (c.alarms.takeWhile (·.due ≤ a.due)).map fun x => (x.due, x.strand) := by
      rw [List.map_map]
      apply List.map_congr_left
      intro x hx
      rw [halarms] at hx
      rw [due_of_mem_takeWhile hsorted hx]
      rfl
    simp only [dated, hready, hdue, Multiset.coe_add, ← List.map_append,
      List.takeWhile_append_dropWhile, List.map_nil, List.nil_append]

/-- The clock goes on to a time at which a strand goes on, and to no later one. -/
theorem Timely.now_wake {c : Crew ρ S σ} (h : c.Timely) (hready : c.ready = [])
    (halarms : c.alarms ≠ []) :
    c.now < c.wake.now ∧ (∃ x ∈ c.dated, x.1 = c.wake.now) ∧ ∀ x ∈ c.dated, c.wake.now ≤ x.1 := by
  obtain ⟨a, as, ha⟩ := List.exists_cons_of_ne_nil halarms
  have hnow : c.wake.now = a.due := by
    unfold Crew.wake
    simp [ha]
  have hdated : c.dated =
      ((a :: as).map fun a => (a.due, a.strand) : List (Instant × Strand ρ)) := by
    simp [dated, hready, ha]
  have hsorted := h.sorted
  rw [ha, List.pairwise_cons] at hsorted
  rw [hnow, hdated]
  refine ⟨h.later a (ha ▸ List.mem_cons_self), ⟨(a.due, a.strand), by simp, rfl⟩, fun x hx => ?_⟩
  obtain ⟨b, hb, rfl⟩ := List.mem_map.1 (Multiset.mem_coe.1 hx)
  rcases List.mem_cons.1 hb with rfl | hb
  · exact Nat.le_refl _
  · exact hsorted.1 b hb

/-- One move of a crew: the clock goes on to the first alarm, a strand waits, or a strand ends. -/
inductive Moves (p : Plan ρ S) (o : Outside σ) (c d : Crew ρ S σ) : Prop
  | clock (idle : c.ready = []) (waiting : c.alarms ≠ []) (eq : d = c.wake)
    (dated : d.dated = c.dated)
  | wait {x : Strand ρ} {delay : Nat} {rest : Activity (ρ x.tag)} {w : σ}
    {ys : Multiset (Instant × Strand ρ)}
    (advance : x.rest.advance o c.now c.surroundings = (.waiting delay rest, w))
    (before : c.dated = (c.now, x) ::ₘ ys) (after : d.dated = (c.now + delay, ⟨x.tag, rest⟩) ::ₘ ys)
    (now : d.now = c.now) (state : d.state = c.state) (surroundings : d.surroundings = w)
  | ending {x : Strand ρ} {r : ρ x.tag} {w : σ} {ys : Multiset (Instant × Strand ρ)}
    (advance : x.rest.advance o c.now c.surroundings = (.ended r, w))
    (before : c.dated = (c.now, x) ::ₘ ys)
    (after : d.dated = (p c.now x.tag r c.state).strands.map (c.now, ·) + ys)
    (now : d.now = c.now) (state : d.state = (p c.now x.tag r c.state).state)
    (surroundings : d.surroundings = w)

theorem Timely.moves {p : Plan ρ S} {o : Outside σ} {c d : Crew ρ S σ} (ht : c.Timely)
    (h : c.turn p o = some d) : d.Timely ∧ Moves p o c d := by
  unfold turn at h
  split at h
  · next hready =>
    split at h
    · cases h
    · next halarms =>
      cases h
      exact ⟨ht.wake, .clock hready (by simpa using halarms) rfl (ht.dated_wake hready)⟩
  · next x ready hready =>
    have hbefore : c.dated = (c.now, x) ::ₘ ((ready.map (c.now, ·) : List (Instant × Strand ρ)) +
        (c.alarms.map fun a => (a.due, a.strand) : List (Instant × Strand ρ)) :
          Multiset (Instant × Strand ρ)) := by
      simp only [dated, hready, List.map_cons, ← Multiset.cons_coe, Multiset.cons_add]
    split at h
    · next delay rest w hadvance =>
      cases h
      refine ⟨⟨sorted_schedule _ ht.sorted, fun a ha => ?_⟩, .wait hadvance hbefore ?_ rfl rfl rfl⟩
      · rcases List.mem_cons.1 ((schedule_perm _ _).mem_iff.1 ha) with rfl | ha
        · have hpos : 0 < delay := Activity.delay_pos hadvance
          exact Nat.lt_add_of_pos_right hpos
        · exact ht.later a ha
      · have hperm := (schedule_perm ⟨c.now + delay, ⟨x.tag, rest⟩⟩ c.alarms).map
          fun a : Alarm ρ => (a.due, a.strand)
        simp only [dated, Multiset.coe_eq_coe.2 hperm, List.map_cons, ← Multiset.cons_coe,
          Multiset.add_cons]
    · next r w hadvance =>
      cases h
      refine ⟨⟨ht.sorted, ht.later⟩, .ending hadvance hbefore ?_ rfl rfl rfl⟩
      simp only [dated, Reaction.strands, List.map_append, ← Multiset.coe_add, Multiset.map_add,
        Multiset.map_coe]
      ac_rfl

end Crew
end TestWorker
