import TestWorker.Proofs.Job.Hushed

namespace TestWorker
variable {hears : List Line → Bool}

namespace Batch

def hushed (hears : List Line → Bool) (b : Batch) : Batch :=
  { b with jobs := b.jobs.map (Activity.hushed hears) }

theorem jobStrand_hushed (b : Batch) (i : Nat) :
    (b.hushed hears).jobStrand i = (b.jobStrand i).map (Strand.hushed hears) := by
  unfold jobStrand hushed
  rw [List.getElem?_map]
  cases b.jobs[i]? <;> rfl

theorem opening_hushed (b : Batch) :
    (b.hushed hears).opening = b.opening.map (Strand.hushed hears) := by
  unfold opening hushed
  rw [List.length_map, List.map_map]
  rfl

/-- Nobody but the jobs prints. -/
theorem plan_hushed : Plan.Hushed hears (hushed hears) plan plan := by
  intro now tag result b
  cases tag with
  | arrival i =>
    have harrive : (b.hushed hears).arrive i = ((b.arrive i).1.hushed hears, (b.arrive i).2) := by
      unfold arrive
      change (if b.hasRoom then _ else _) = _
      split <;> rfl
    unfold plan
    dsimp only
    rw [harrive]
    generalize b.arrive i = x
    obtain ⟨b, room⟩ := x
    cases room with
    | true =>
      dsimp only
      rw [jobStrand_hushed]
      rfl
    | false => rfl
  | entry i =>
    unfold plan
    dsimp only
    rw [jobStrand_hushed]
    rfl
  | job i =>
    obtain ⟨jobs, standings, free, queue, history⟩ := b
    cases queue <;> rfl

end Batch

namespace Half

def hushed (hears : List Line → Bool) : Half → Half
  | working b => working (b.hushed hears)
  | h => h

theorem hasEnded_hushed (h : Half) : (h.hushed hears).hasEnded = h.hasEnded := by
  cases h <;> rfl

theorem outcome_hushed (h : Half) : (h.hushed hears).outcome = h.outcome := by
  cases h <;> rfl

theorem count_hushed (h : Half) : (h.hushed hears).count = h.count := by
  cases h with
  | working b => exact List.length_map _
  | _ => rfl

end Half

namespace Cycle

def hushed (hears : List Line → Bool) (c : Cycle) : Cycle :=
  { c with halves := c.halves.map fun x => (x.1, x.2.hushed hears) }

variable {w : Worker} {level : Logging}

theorem half_hushed (c : Cycle) (k : Coordinator.Kind) :
    (c.hushed hears).half k = (c.half k).hushed hears := by
  unfold half hushed
  dsimp only
  rw [List.find?_map]
  change ((Option.map _ (c.halves.find? (·.1 == k))).map _).getD _ = _
  cases c.halves.find? (·.1 == k) <;> rfl

theorem setHalf_hushed (c : Cycle) (k : Coordinator.Kind) (h : Half) :
    (c.setHalf k h).hushed hears = (c.hushed hears).setHalf k (h.hushed hears) := by
  unfold setHalf hushed
  dsimp only
  rw [List.map_map, List.map_map]
  congr 1
  refine List.map_congr_left fun x _ => ?_
  dsimp only [Function.comp_apply]
  split <;> rfl

theorem finished_hushed (c : Cycle) : (c.hushed hears).finished = c.finished := by
  unfold finished hushed
  dsimp only
  rw [List.all_map]
  exact congrArg _ (funext fun x => x.2.hasEnded_hushed)

theorem find_hushed (cs : List Cycle) (n : Nat) :
    find (cs.map (hushed hears)) n = (find cs n).hushed hears := by
  unfold find
  rw [List.find?_map]
  change (Option.map _ (cs.find? (·.number == n))).getD _ = _
  cases cs.find? (·.number == n) <;> rfl

theorem put_hushed (cs : List Cycle) (c : Cycle) :
    (put cs c).map (hushed hears) = put (cs.map (hushed hears)) (c.hushed hears) := by
  unfold put
  rw [List.map_map, List.map_map]
  refine List.map_congr_left fun d _ => ?_
  dsimp only [Function.comp_apply]
  change _ = if d.number == c.number then _ else _
  split <;> rfl

theorem endHalf_hushed (cs : List Cycle) (n : Nat) (k : Coordinator.Kind)
    (result : Except Fault Nat) :
    endHalf (cs.map (hushed hears)) n k result =
      (endHalf cs n k result).hushed hears (List.map (hushed hears)) := by
  have hset : (find (cs.map (hushed hears)) n).setHalf k (.ended result) =
      ((find cs n).setHalf k (.ended result)).hushed hears := by
    rw [find_hushed, setHalf_hushed]
    rfl
  unfold endHalf Reaction.hushed
  dsimp only
  rw [hset, finished_hushed, put_hushed]
  cases result with
  | error f => rfl
  | ok count =>
    dsimp only
    split <;> rfl

theorem batch_hushed (h : w.Hushed hears level) (k : Coordinator.Kind) (raws : List Value) :
    batch (w.withLogging level) k raws = (batch w k raws).hushed hears := by
  have hjobs : raws.map (job (w.withLogging level) k) =
      (raws.map (job w k)).map (Activity.hushed hears) := by
    rw [List.map_map]
    exact List.map_congr_left fun raw _ => (job_hushed h k raw).symm
  have hstandings :
      ((raws.map (job w k)).map (Activity.hushed hears)).map (fun _ => Standing.coming) =
      (raws.map (job w k)).map fun _ => Standing.coming := List.map_map
  unfold batch Batch.create
  rw [hjobs, hstandings]
  rfl

theorem lift_hushed (n : Nat) (k : Coordinator.Kind) (xs : List (Strand Batch.Tag.Result)) :
    (xs.map (Strand.hushed hears)).map (lift n k) =
      (xs.map (lift n k)).map (Strand.hushed hears) := by
  rw [List.map_map, List.map_map]
  rfl

theorem react_hushed (h : w.Hushed hears level) (now : Instant)
    (t : Tag) (result : t.Result) (cs : List Cycle) :
    react (w.withLogging level) now t result (cs.map (hushed hears)) =
      ((react w now t result cs).1.hushed hears (List.map (hushed hears)),
        (react w now t result cs).2) := by
  cases t with
  | fetch n k =>
    cases result with
    | error f => exact congrArg (·, []) (endHalf_hushed cs n k _)
    | ok raws =>
      unfold react
      dsimp only
      split
      · exact congrArg (·, []) (endHalf_hushed cs n k _)
      · have hset : (find (cs.map (hushed hears)) n).setHalf k
            (.working (batch (w.withLogging level) k raws)) =
            ((find cs n).setHalf k (.working (batch w k raws))).hushed hears := by
          rw [find_hushed, setHalf_hushed, batch_hushed h]
          rfl
        unfold Reaction.hushed
        dsimp only
        rw [hset, put_hushed, batch_hushed h, Batch.opening_hushed, lift_hushed]
        rfl
  | work n k t =>
    have hhalf : (find (cs.map (hushed hears)) n).half k = ((find cs n).half k).hushed hears := by
      rw [find_hushed, half_hushed]
    unfold react
    dsimp only
    rw [hhalf]
    cases (find cs n).half k with
    | fetching => rfl
    | ended result => rfl
    | working b =>
      have hplan : Batch.plan now t result (b.hushed hears) = _ := Batch.plan_hushed now t result b
      have hset : (find (cs.map (hushed hears)) n).setHalf k
          (.working ((Batch.plan now t result b).state.hushed hears)) =
            ((find cs n).setHalf k (.working (Batch.plan now t result b).state)).hushed hears := by
        rw [find_hushed, setHalf_hushed]
        rfl
      have hfinished : ((Batch.plan now t result b).state.hushed hears).finished =
          (Batch.plan now t result b).state.finished := rfl
      simp only [Half.hushed, hplan, Reaction.hushed, hset, hfinished,
        put_hushed, lift_hushed, List.map_append]
      split <;> rfl
  | tally n k =>
    unfold react
    dsimp only
    rw [find_hushed, half_hushed, Half.count_hushed]
    exact congrArg (fun a : Activity Unit =>
      ((⟨cs.map (hushed hears), [], [⟨.conclude n k, a⟩]⟩ : Reaction Tag.Result (List Cycle)), []))
      (h.print_progress _).symm
  | conclude n k =>
    unfold react
    dsimp only
    rw [find_hushed, half_hushed, Half.count_hushed, endHalf_hushed]
  | settle n k =>
    unfold react
    dsimp only
    rw [find_hushed]
    have houtcome : ((find cs n).hushed hears).outcome = (find cs n).outcome := rfl
    rw [houtcome]
    cases (find cs n).outcome with
    | some result => rfl
    | none =>
      dsimp only
      rw [half_hushed, Half.outcome_hushed]
      unfold Reaction.hushed
      dsimp only
      rw [put_hushed]
      rfl
  | close n =>
    unfold react
    dsimp only
    rw [find_hushed]
    rfl

end Cycle
end TestWorker
