import TestWorker.Cycle
import TestWorker.Proofs.Batch

namespace TestWorker

namespace Batch

theorem jobs_plan (now : Instant) (t : Tag) (r : t.Result) (b : Batch) :
    (plan now t r b).state.jobs = b.jobs := by
  cases t with
  | arrival i =>
    simp only [plan, arrive]
    cases b.hasRoom <;> rfl
  | entry i => rfl
  | job i =>
    have hfinish : (b.finish now i r).1.jobs = b.jobs := by
      unfold finish
      dsimp only
      split <;> rfl
    simp only [plan]
    split
    · next h =>
      rw [h] at hfinish
      exact hfinish
    · next h =>
      rw [h] at hfinish
      exact hfinish

theorem mem_jobs_of_mem_plan {now : Instant} {t : Tag} {r : t.Result} {b : Batch} {i : Nat}
    {a : Activity Bool} (h : (⟨.job i, a⟩ : Strand Tag.Result) ∈ (plan now t r b).strands) :
    a ∈ b.jobs := by
  rcases strands_plan now t r b with ⟨j, hj⟩ | ⟨j, hj⟩ | hzero
  · rw [hj, Multiset.mem_coe, jobStrand] at h
    split at h
    · next job hjob =>
      cases List.mem_singleton.1 h
      exact List.mem_of_getElem? hjob
    · cases h
  · rw [hj] at h
    cases Multiset.mem_singleton.1 h
  · rw [hzero] at h
    exact absurd h (Multiset.notMem_zero _)

end Batch

namespace Cycle
variable {w : Worker} {cs : List Cycle} {c : Cycle} {n : Nat} {k : Coordinator.Kind}

/-- A batch of jobs that have been fetched. -/
def Fetched (w : Worker) (k : Coordinator.Kind) (b : Batch) : Prop :=
  ∀ a ∈ b.jobs, ∃ raw, a = job w k raw

/-- Every half at work has a batch of jobs that have been fetched. -/
def Faithful (w : Worker) (c : Cycle) : Prop :=
  ∀ k b, (k, Half.working b) ∈ c.halves → Fetched w k b

theorem faithful_find (h : ∀ c ∈ cs, Faithful w c) (n : Nat) : Faithful w (find cs n) := by
  unfold find
  cases hfound : cs.find? (·.number == n) with
  | none => exact fun _ _ hmem => nomatch hmem
  | some c => exact h c (List.mem_of_find?_eq_some hfound)

theorem faithful_put (h : ∀ c ∈ cs, Faithful w c) (hc : Faithful w c) :
    ∀ d ∈ put cs c, Faithful w d := by
  intro d hd
  obtain ⟨d, hmem, rfl⟩ := List.mem_map.1 hd
  split
  · exact hc
  · exact h d hmem

theorem faithful_setHalf (h : Faithful w c) {x : Half} (hx : ∀ b, x = .working b → Fetched w k b) :
    Faithful w (c.setHalf k x) := by
  intro j b hmem
  obtain ⟨⟨j', y⟩, hy, heq⟩ := List.mem_map.1 hmem
  dsimp only at heq
  split at heq
  · next hk =>
    obtain rfl : j' = k := eq_of_beq hk
    cases heq
    exact hx b rfl
  · cases heq
    exact h _ _ hy

theorem Faithful.half (h : Faithful w c) {b : Batch} (hb : c.half k = .working b) :
    Fetched w k b := by
  unfold Cycle.half at hb
  cases hfound : c.halves.find? (·.1 == k) with
  | none =>
    rw [hfound] at hb
    cases hb
  | some x =>
    rw [hfound] at hb
    obtain ⟨j, y⟩ := x
    have hk := List.find?_some hfound
    obtain rfl : j = k := eq_of_beq hk
    obtain rfl : y = .working b := hb
    exact h _ _ (List.mem_of_find?_eq_some hfound)

/-- A strand of a job is that of a fetched value. -/
def Own (w : Worker) (x : Strand Tag.Result) : Prop :=
  ∀ n k i a, x = ⟨.work n k (.job i), a⟩ → ∃ raw, a = job w k raw

theorem own_of_tag {x : Strand Tag.Result} (h : ∀ n k i, x.tag ≠ .work n k (.job i)) : Own w x := by
  rintro n k i a rfl
  exact absurd rfl (h n k i)

/-- What a turn leads to: batches of fetched jobs, and strands of fetched jobs. -/
def Leads (w : Worker) (x : Reaction Tag.Result (List Cycle)) : Prop :=
  (∀ c ∈ x.state, Faithful w c) ∧ ∀ y ∈ x.strands, Own w y

theorem own_lift {b : Batch} (hb : Fetched w k b) {now : Instant} {t : Batch.Tag} {r : t.Result}
    {z : Strand Batch.Tag.Result} (hz : z ∈ (Batch.plan now t r b).strands) (n : Nat) :
    Own w (lift n k z) := by
  intro m j i a heq
  obtain ⟨t', a'⟩ := z
  cases heq
  exact hb a' (Batch.mem_jobs_of_mem_plan hz)

theorem leads_endHalf (h : ∀ c ∈ cs, Faithful w c) (n : Nat)
    (k : Coordinator.Kind) (result : Except Fault Nat) :
    Leads w (endHalf cs n k result) := by
  refine ⟨faithful_put h (faithful_setHalf (faithful_find h n) nofun), fun y hy => ?_⟩
  rcases Reaction.mem_strands.1 hy with hy | hy
  · cases hy
  · unfold endHalf at hy
    obtain ⟨-, hy⟩ := List.mem_ite_nil_right.1 hy
    rw [List.mem_singleton.1 hy]
    exact own_of_tag nofun

theorem leads_begin (h : ∀ c ∈ cs, Faithful w c) (n : Nat) : Leads w ((routine w).begin n cs) := by
  refine ⟨fun c hc => ?_, fun y hy => ?_⟩
  · rcases List.mem_append.1 hc with hc | hc
    · exact h c hc
    · obtain rfl := List.mem_singleton.1 hc
      intro k b hmem
      obtain ⟨j, -, hj⟩ := List.mem_map.1 hmem
      cases hj
  · rcases Reaction.mem_strands.1 hy with hy | hy
    · cases hy
    · obtain ⟨k, -, rfl⟩ := List.mem_map.1 hy
      exact own_of_tag nofun

/-- A reaction keeps to the jobs that have been fetched. -/
theorem leads_react (h : ∀ c ∈ cs, Faithful w c) (now : Instant) (t : Tag) (r : t.Result) :
    Leads w (react w now t r cs).1 := by
  have hnothing {y : Strand Tag.Result} (hy : y ∈ (0 : Multiset (Strand Tag.Result))) : Own w y :=
    absurd hy (Multiset.notMem_zero y)
  have hone {z : Strand Tag.Result} (hz : ∀ n k i, z.tag ≠ .work n k (.job i)) :
      ∀ y ∈ ({z} : Multiset (Strand Tag.Result)), Own w y := by
    intro y hy
    rw [Multiset.mem_singleton.1 hy]
    exact own_of_tag hz
  cases t with
  | fetch n k =>
    cases r with
    | error f => exact leads_endHalf h n k _
    | ok raws =>
      unfold react
      dsimp only
      split
      · exact leads_endHalf h n k _
      · refine ⟨faithful_put h (faithful_setHalf (faithful_find h n) ?_), fun y hy => ?_⟩
        · rintro b ⟨⟩ a ha
          obtain ⟨raw, -, rfl⟩ := List.mem_map.1 ha
          exact ⟨raw, rfl⟩
        · rcases Reaction.mem_strands.1 hy with hy | hy
          · cases hy
          · obtain ⟨z, hz, rfl⟩ := List.mem_map.1 hy
            obtain ⟨i, -, rfl⟩ := List.mem_map.1 hz
            exact own_of_tag nofun
  | work n k t =>
    unfold react
    dsimp only
    split
    · next b hb =>
      have hfetched : Fetched w k b := (faithful_find h n).half hb
      refine ⟨faithful_put h (faithful_setHalf (faithful_find h n) ?_), fun y hy => ?_⟩
      · rintro b' ⟨⟩ a ha
        have hjobs : (Batch.plan now t r b).state.jobs = b.jobs := Batch.jobs_plan now t r b
        exact hfetched a ((congrArg (a ∈ ·) hjobs).mp ha)
      · rcases Reaction.mem_strands.1 hy with hy | hy
        · obtain ⟨z, hz, rfl⟩ := List.mem_map.1 hy
          exact own_lift hfetched (Reaction.mem_strands.2 (.inl hz)) n
        · rcases List.mem_append.1 hy with hy | hy
          · obtain ⟨z, hz, rfl⟩ := List.mem_map.1 hy
            exact own_lift hfetched (Reaction.mem_strands.2 (.inr hz)) n
          · obtain ⟨-, hy⟩ := List.mem_ite_nil_right.1 hy
            rw [List.mem_singleton.1 hy]
            exact own_of_tag nofun
    · exact ⟨h, fun y hy => hnothing hy⟩
  | tally n k => exact ⟨h, hone nofun⟩
  | conclude n k => exact leads_endHalf h n k _
  | settle n k =>
    unfold react
    dsimp only
    split
    · exact ⟨h, fun y hy => hnothing hy⟩
    · exact ⟨faithful_put h (faithful_find h n), hone nofun⟩
  | close n => exact ⟨h, fun y hy => hnothing hy⟩

end Cycle
end TestWorker
