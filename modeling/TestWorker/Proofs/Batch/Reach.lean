import TestWorker.Proofs.Batch.Slots
import TestWorker.Proofs.Crew.Steps

namespace TestWorker.Batch
variable {σ : Type} {o : Outside σ} {jobs : List (Activity Bool)} {cap : Option Nat}
  {now : Instant} {w : σ} {c d : Crew Tag.Result Batch σ}

def opened (jobs : List (Activity Bool)) (cap : Option Nat) (now : Instant) (w : σ) :
    Crew Tag.Result Batch σ where
  now := now
  ready := (create jobs cap).opening
  state := create jobs cap
  surroundings := w

/-- Turns of the batch lead to here. -/
def Reached (jobs : List (Activity Bool)) (cap : Option Nat) (c : Crew Tag.Result Batch σ) : Prop :=
  ∃ log, Runs plan (create jobs cap) (create jobs cap).opening log c.state c.strands

theorem reached_opened : Reached jobs cap (opened jobs cap now w) := by
  have hstrands : (opened jobs cap now w).strands = (create jobs cap).opening := by
    simp [Crew.strands, opened]
  refine ⟨[], ?_⟩
  rw [hstrands]
  exact .start

theorem Reached.turn (h : Reached jobs cap c) (hturn : c.turn plan o = some d) :
    Reached jobs cap d := by
  obtain ⟨log, hruns⟩ := h
  exact Crew.runs_turn hruns hturn

theorem Reached.same (h : Reached jobs cap c) : c.state.jobs = jobs := by
  obtain ⟨log, hruns⟩ := h
  exact (sound hruns).same

theorem Reached.queue (h : Reached jobs cap c) (hfinished : c.state.finished = true) :
    c.state.queue = [] := by
  obtain ⟨log, hruns⟩ := h
  have hsound := sound hruns
  have hplaces := hsound.places
  rw [(hsound.finished hfinished).1] at hplaces
  have hnone := (add_eq_zero.1 (add_eq_right.1 hplaces)).2
  exact (Multiset.coe_eq_zero _).1 hnone

theorem Reached.finished_iff (hcap : ∀ n, cap = some n → 0 < n) (h : Reached jobs cap c) :
    c.state.finished = true ↔ c.strands = 0 := by
  obtain ⟨log, hruns⟩ := h
  refine ⟨fun hfinished => Multiset.map_eq_zero.1 ((sound hruns).finished hfinished).2.2,
    fun hnone => ?_⟩
  rw [hnone] at hruns
  exact finished_of_none hcap (sound hruns) (slotted hruns) (recorded hruns)

theorem Reached.turns (hcap : ∀ n, cap = some n → 0 < n) (h : Reached jobs cap c)
    (hturn : c.turn plan o = some d) : Crew.Step plan o finished c d := by
  refine ⟨Bool.eq_false_iff.2 fun hfinished => ?_, hturn⟩
  obtain ⟨hready, halarms⟩ := Crew.strands_eq_zero.1 ((h.finished_iff hcap).1 hfinished)
  simp [Crew.turn, hready, halarms] at hturn

theorem exists_finished (hcap : ∀ n, cap = some n → 0 < n) (o : Outside σ)
    (h : Reached jobs cap c) :
    ∃ d, Crew.Steps plan o finished c d ∧ Reached jobs cap d ∧ d.state.finished = true := by
  obtain ⟨n, hn⟩ := Crew.exists_end_of_lowers (o := o) (I := Reached jobs cap) finished
    (fun _ _ hc _ hturn => hc.turn hturn) (fun _ _ _ _ _ _ _ => distance_lowers _ _ _ _ _) c h
  obtain ⟨hreached, hend⟩ := hn n (Nat.le_refl n)
  exact ⟨_, Crew.steps_runUntil n c, hreached, hend.elim id (hreached.finished_iff hcap).2⟩

end TestWorker.Batch
