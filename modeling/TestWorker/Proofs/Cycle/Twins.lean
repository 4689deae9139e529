import TestWorker.Cycle
import TestWorker.Proofs.Crew.Twins

namespace TestWorker
variable {C : Web.Request → Web.Request → Prop}

namespace Batch

/-- Batches that differ in their jobs alone, and these ask for the same. -/
inductive Twins (C : Web.Request → Web.Request → Prop) : Batch → Batch → Prop
  | mk (b : Batch) {jobs : List (Activity Bool)} : List.Forall₂ (Activity.Twins C Eq) b.jobs jobs →
    Twins C b { b with jobs := jobs }

variable {b c : Batch}

theorem jobStrand_twins (h : b.Twins C c) (i : Nat) :
    List.Forall₂ (Strand.Twins C) (b.jobStrand i) (c.jobStrand i) := by
  obtain ⟨hjobs⟩ := h
  have hget := List.forall₂_iff_get.1 hjobs
  unfold jobStrand
  by_cases hi : i < b.jobs.length
  · rw [List.getElem?_eq_getElem hi, List.getElem?_eq_getElem (hget.1 ▸ hi)]
    exact .cons (.mk (hget.2 i hi (hget.1 ▸ hi))) .nil
  · have hi := Nat.le_of_not_lt hi
    rw [List.getElem?_eq_none hi, List.getElem?_eq_none (hget.1 ▸ hi)]
    exact .nil

theorem Twins.length (h : b.Twins C c) : b.jobs.length = c.jobs.length := by
  obtain ⟨hjobs⟩ := h
  exact hjobs.length_eq

theorem Twins.finished (h : b.Twins C c) : b.finished = c.finished := by
  obtain ⟨-⟩ := h
  rfl

theorem Twins.opening (h : b.Twins C c) : b.opening = c.opening := by
  unfold Batch.opening
  rw [h.length]

theorem Twins.arrive (h : b.Twins C c) (i : Nat) :
    (b.arrive i).1.Twins C (c.arrive i).1 ∧ (b.arrive i).2 = (c.arrive i).2 := by
  obtain ⟨hjobs⟩ := h
  unfold Batch.arrive
  change (if b.hasRoom then _ else _ : Batch × Bool).1.Twins C
      (if b.hasRoom then _ else _ : Batch × Bool).1 ∧
    (if b.hasRoom then _ else _ : Batch × Bool).2 = (if b.hasRoom then _ else _ : Batch × Bool).2
  split
  · exact ⟨.mk _ hjobs, rfl⟩
  · exact ⟨.mk _ hjobs, rfl⟩

theorem Twins.start (h : b.Twins C c) (now : Instant) (i : Nat) :
    (b.start now i).Twins C (c.start now i) := by
  obtain ⟨hjobs⟩ := h
  exact .mk _ hjobs

theorem Twins.finish (h : b.Twins C c) (now : Instant) (i : Nat) (success : Bool) :
    (b.finish now i success).1.Twins C (c.finish now i success).1 ∧
      (b.finish now i success).2 = (c.finish now i success).2 := by
  obtain ⟨hjobs⟩ := h
  obtain ⟨jobs, standings, free, queue, history⟩ := b
  cases queue with
  | nil => exact ⟨.mk _ hjobs, rfl⟩
  | cons j queue => exact ⟨.mk _ hjobs, rfl⟩

theorem plan_twins : Plan.Twins C (Twins C) plan plan := by
  intro now tag result b c h
  cases tag with
  | arrival i =>
    obtain ⟨hb, hroom⟩ := h.arrive i
    unfold plan
    dsimp only
    generalize b.arrive i = x at hb hroom
    generalize c.arrive i = y at hb hroom
    obtain ⟨b, room⟩ := x
    obtain ⟨c, _⟩ := y
    obtain rfl := hroom
    cases room with
    | true => exact ⟨hb.start now i, jobStrand_twins hb i, .nil⟩
    | false => exact ⟨hb, .nil, .nil⟩
  | entry i => exact ⟨h.start now i, jobStrand_twins h i, .nil⟩
  | job i =>
    obtain ⟨hb, hnext⟩ := h.finish now i result
    unfold plan
    dsimp only
    generalize b.finish now i result = x at hb hnext
    generalize c.finish now i result = y at hb hnext
    obtain ⟨b, next⟩ := x
    obtain ⟨c, _⟩ := y
    obtain rfl := hnext
    cases next with
    | none => exact ⟨hb, .nil, .nil⟩
    | some j => exact ⟨hb, .nil, Strand.forall₂_refl C _⟩

end Batch

/-- Halves that have come equally far. -/
inductive Half.Twins (C : Web.Request → Web.Request → Prop) : Half → Half → Prop
  | fetching : Twins C .fetching .fetching
  | working {b c : Batch} : b.Twins C c → Twins C (.working b) (.working c)
  | ended (result : Except Fault Nat) : Twins C (.ended result) (.ended result)

namespace Half
variable {g h : Half}

theorem Twins.hasEnded (hgh : g.Twins C h) : g.hasEnded = h.hasEnded := by
  cases hgh <;> rfl

theorem Twins.outcome (hgh : g.Twins C h) : g.outcome = h.outcome := by
  cases hgh <;> rfl

theorem Twins.count (hgh : g.Twins C h) : g.count = h.count := by
  cases hgh with
  | fetching => rfl
  | ended result => rfl
  | working hbc => exact hbc.length

end Half

namespace Cycle

structure Twins (C : Web.Request → Web.Request → Prop) (c d : Cycle) : Prop where
  number : c.number = d.number
  halves : List.Forall₂ (fun x y => x.1 = y.1 ∧ x.2.Twins C y.2) c.halves d.halves
  outcome : c.outcome = d.outcome

variable {c d : Cycle} {cs ds : List Cycle}

theorem Twins.half (h : c.Twins C d) (k : Coordinator.Kind) : (c.half k).Twins C (d.half k) := by
  have hhalves := h.halves
  unfold Cycle.half
  generalize c.halves = xs at hhalves
  generalize d.halves = ys at hhalves
  induction hhalves with
  | nil => exact .ended _
  | @cons x y xs ys hxy _ ih =>
    rw [List.find?_cons, List.find?_cons, hxy.1]
    split
    · exact hxy.2
    · exact ih

theorem Twins.setHalf (h : c.Twins C d) (k : Coordinator.Kind) {g g' : Half} (hg : g.Twins C g') :
    (c.setHalf k g).Twins C (d.setHalf k g') := by
  refine ⟨h.number, ?_, h.outcome⟩
  have hhalves := h.halves
  unfold Cycle.setHalf
  dsimp only
  generalize c.halves = xs at hhalves
  generalize d.halves = ys at hhalves
  induction hhalves with
  | nil => exact .nil
  | @cons x y xs ys hxy _ ih =>
    refine .cons ?_ ih
    dsimp only
    rw [hxy.1]
    split
    · exact ⟨rfl, hg⟩
    · exact ⟨rfl, hxy.2⟩

theorem Twins.finished (h : c.Twins C d) : c.finished = d.finished := by
  have hhalves := h.halves
  unfold Cycle.finished
  generalize c.halves = xs at hhalves
  generalize d.halves = ys at hhalves
  induction hhalves with
  | nil => rfl
  | cons hxy _ ih => rw [List.all_cons, List.all_cons, hxy.2.hasEnded, ih]

theorem twins_find (h : List.Forall₂ (Twins C) cs ds) (n : Nat) :
    (find cs n).Twins C (find ds n) := by
  unfold find
  induction h with
  | nil => exact ⟨rfl, .nil, rfl⟩
  | cons hcd _ ih =>
    rw [List.find?_cons, List.find?_cons, hcd.number]
    split
    · exact hcd
    · exact ih

theorem twins_put (h : List.Forall₂ (Twins C) cs ds) (hcd : c.Twins C d) :
    List.Forall₂ (Twins C) (put cs c) (put ds d) := by
  unfold put
  rw [hcd.number]
  induction h with
  | nil => exact .nil
  | cons hxy _ ih =>
    refine .cons ?_ ih
    dsimp only
    rw [hxy.number]
    split
    · exact hcd
    · exact hxy

/-- Workers whose strands ask for the same. -/
structure Peers (C : Web.Request → Web.Request → Prop) (w v : Worker) : Prop where
  console : w.console = v.console
  concurrency : w.settings.concurrency = v.settings.concurrency
  fetch k : (fetch w k).Twins C Eq (fetch v k)
  job k raw : (job w k raw).Twins C Eq (job v k raw)

variable {w v : Worker}

theorem endHalf_twins (h : List.Forall₂ (Twins C) cs ds) (n : Nat) (k : Coordinator.Kind)
    (result : Except Fault Nat) :
    (endHalf cs n k result).Twins C (List.Forall₂ (Twins C)) (endHalf ds n k result) := by
  have hset := (twins_find h n).setHalf k (.ended result)
  unfold endHalf
  dsimp only
  rw [hset.finished]
  exact ⟨twins_put h hset, .nil, Strand.forall₂_refl C _⟩

theorem batch_twins (h : Peers C w v) (k : Coordinator.Kind) (raws : List Value) :
    (batch w k raws).Twins C (batch v k raws) := by
  have hjobs : List.Forall₂ (Activity.Twins C Eq) (raws.map (job w k)) (raws.map (job v k)) := by
    induction raws with
    | nil => exact .nil
    | cons raw raws ih => exact .cons (h.job k raw) ih
  have hstandings : (raws.map (job v k)).map (fun _ => Standing.coming) =
      (raws.map (job w k)).map fun _ => Standing.coming := by
    simp only [List.map_const', List.length_map]
  unfold batch Batch.create
  rw [← h.concurrency, hstandings]
  exact .mk _ hjobs

theorem forall₂_lift (n : Nat) (k : Coordinator.Kind) {xs ys : List (Strand Batch.Tag.Result)}
    (h : List.Forall₂ (Strand.Twins C) xs ys) :
    List.Forall₂ (Strand.Twins C) (xs.map (lift n k)) (ys.map (lift n k)) := by
  induction h with
  | nil => exact .nil
  | cons hxy _ ih =>
    cases hxy with
    | mk hab => exact .cons (.mk hab) ih

theorem react_twins (h : Peers C w v) (now : Instant) (t : Tag) (result : t.Result)
    (hcs : List.Forall₂ (Twins C) cs ds) :
    (react w now t result cs).1.Twins C (List.Forall₂ (Twins C)) (react v now t result ds).1 ∧
      (react w now t result cs).2 = (react v now t result ds).2 := by
  cases t with
  | fetch n k =>
    cases result with
    | error f => exact ⟨endHalf_twins hcs n k _, rfl⟩
    | ok raws =>
      unfold react
      dsimp only
      split
      · exact ⟨endHalf_twins hcs n k _, rfl⟩
      · have hbatch := batch_twins h k raws
        refine ⟨⟨twins_put hcs ((twins_find hcs n).setHalf k (.working hbatch)), .nil, ?_⟩, rfl⟩
        rw [hbatch.opening]
        exact Strand.forall₂_refl C _
  | work n k t =>
    have hhalf := (twins_find hcs n).half k
    unfold react
    dsimp only
    generalize (find cs n).half k = x at hhalf
    generalize (find ds n).half k = y at hhalf
    cases hhalf with
    | fetching => exact ⟨⟨hcs, .nil, .nil⟩, rfl⟩
    | ended => exact ⟨⟨hcs, .nil, .nil⟩, rfl⟩
    -- the batches react alike, and what they lead to is the same but for the jobs
    | @working b c hbc =>
      obtain ⟨hstate, hfirst, hlater⟩ := Batch.plan_twins (C := C) now t result b c hbc
      dsimp only
      rw [hstate.finished]
      refine ⟨⟨twins_put hcs ((twins_find hcs n).setHalf k (.working hstate)),
        forall₂_lift n k hfirst, ?_⟩, rfl⟩
      exact List.rel_append (forall₂_lift n k hlater) (Strand.forall₂_refl C _)
  | tally n k =>
    unfold react
    dsimp only
    rw [h.console, ((twins_find hcs n).half k).count]
    exact ⟨⟨hcs, .nil, Strand.forall₂_refl C _⟩, rfl⟩
  | conclude n k =>
    unfold react
    dsimp only
    rw [((twins_find hcs n).half k).count]
    exact ⟨endHalf_twins hcs n k _, rfl⟩
  | settle n k =>
    have hfind := twins_find hcs n
    unfold react
    dsimp only
    rw [hfind.outcome]
    split
    · exact ⟨⟨hcs, .nil, .nil⟩, rfl⟩
    · refine ⟨⟨twins_put hcs ⟨hfind.number, hfind.halves, ?_⟩, .nil, Strand.forall₂_refl C _⟩, rfl⟩
      rw [(hfind.half k).outcome]
  | close n =>
    unfold react
    dsimp only
    rw [(twins_find hcs n).outcome]
    exact ⟨⟨hcs, .nil, .nil⟩, rfl⟩

theorem start_twins (h : Peers C w v) (n : Nat) (ks : List Coordinator.Kind) :
    (start n ks w).1.Twins C (start n ks v).1 ∧
      List.Forall₂ (Strand.Twins C) (start n ks w).2 (start n ks v).2 := by
  refine ⟨⟨rfl, List.forall₂_same.2 fun x hx => ?_, rfl⟩, ?_⟩
  · obtain ⟨k, -, rfl⟩ := List.mem_map.1 hx
    exact ⟨rfl, .fetching⟩
  · induction ks with
    | nil => exact .nil
    | cons k ks ih => exact .cons (.mk (h.fetch k)) ih

end Cycle
end TestWorker
