import TestWorker.Job
import TestWorker.Proofs.Batch
import TestWorker.Proofs.Crew.History

namespace TestWorker.Batch

def Tag.slots : Tag → Nat
  | arrival _ => 0
  | entry _ | job _ => 1

def held (ts : Multiset Tag) : Nat := (ts.map Tag.slots).sum

@[simp] theorem held_zero : held 0 = 0 := rfl

@[simp] theorem held_cons (t : Tag) (ts : Multiset Tag) : held (t ::ₘ ts) = t.slots + held ts := by
  simp [held]

@[simp] theorem held_add (ts us : Multiset Tag) : held (ts + us) = held ts + held us := by
  simp [held]

@[simp] theorem held_singleton (t : Tag) : held {t} = t.slots := by
  simp [held]

/-- Slots that are held and slots that are free make up all, and jobs wait only where none is
free. -/
structure Slotted (cap : Option Nat) (b : Batch) (ts : Multiset Tag) : Prop where
  free : b.free = cap.map (· - held ts)
  within : ∀ n, cap = some n → held ts ≤ n
  queue : b.queue ≠ [] → b.free = some 0

variable {jobs : List (Activity Bool)} {cap : Option Nat} {log : List (Ending Tag.Result)}
  {b : Batch} {ts : Multiset Tag}

theorem tags_opening (b : Batch) :
    tags (b.opening : Multiset (Strand Tag.Result)) =
      (Multiset.range b.jobs.length).map Tag.arrival := by
  rw [tags_coe, opening, List.map_map]
  rfl

theorem slotted_create (jobs : List (Activity Bool)) (cap : Option Nat) :
    Slotted cap (create jobs cap)
      (tags ((create jobs cap).opening : Multiset (Strand Tag.Result))) := by
  have hnone : held (tags ((create jobs cap).opening : Multiset (Strand Tag.Result))) = 0 := by
    rw [tags_opening, held, Multiset.map_map]
    simp [Function.comp_def, Tag.slots]
  refine ⟨?_, fun n _ => ?_, fun h => absurd rfl h⟩
  · rw [hnone]
    cases cap <;> rfl
  · rw [hnone]
    exact Nat.zero_le n

theorem tags_jobStrand {i : Nat} (h : i < b.jobs.length) :
    tags (b.jobStrand i : Multiset (Strand Tag.Result)) = {.job i} := by
  rw [jobStrand_of_lt h]
  rfl

theorem Slotted.turn {now : Instant} {t : Tag} {r : t.Result} (hsound : Sound jobs log b (t ::ₘ ts))
    (h : Slotted cap b (t ::ₘ ts)) :
    Slotted cap (plan now t r b).state ((plan now t r b).tags + ts) := by
  obtain ⟨hfree, hwithin, hqueue⟩ := h
  have hlt : t.index < b.jobs.length := hsound.same ▸ hsound.index_lt
  rw [held_cons] at hfree hwithin
  cases t with
  | arrival i =>
    cases hroom : b.hasRoom with
    | true =>
      have htags : (plan now (.arrival i) r b).tags = {.job i} := by
        rw [plan_arrival_of_room now r hroom]
        simp only [Reaction.tags, Reaction.strands, Multiset.coe_nil, add_zero]
        exact tags_jobStrand hlt
      rw [htags, plan_arrival_of_room now r hroom]
      refine ⟨?_, fun n hn => ?_, fun hne => ?_⟩
      · show b.free.map (· - 1) = _
        rw [hfree, Option.map_map, held_add, held_singleton]
        congr 1
        funext n
        simp only [Function.comp_apply, Tag.slots]
        omega
      · have hpos : 0 < n - held ts := by
          simp only [hasRoom, hfree, hn, Option.map_some, Tag.slots, Nat.zero_add, Bool.and_eq_true,
            decide_eq_true_eq] at hroom
          exact hroom.1
        rw [held_add, held_singleton, Tag.slots]
        omega
      · rw [hasRoom, hqueue hne] at hroom
        cases hroom
    | false =>
      rw [plan_arrival_of_no_room now r hroom]
      refine ⟨?_, ?_, fun _ => ?_⟩
      · show b.free = _
        simpa [Reaction.tags, Reaction.strands, Tag.slots] using hfree
      · simpa [Reaction.tags, Reaction.strands, Tag.slots] using hwithin
      · show b.free = some 0
        -- a job finds no room where no slot is free or where others wait, and these wait for the
        -- same reason
        by_cases hne : b.queue = []
        · cases hb : b.free with
          | none => simp [hasRoom, hb] at hroom
          | some n => simpa [hasRoom, hb, hne] using hroom
        · exact hqueue hne
  | entry i =>
    have htags : (plan now (.entry i) r b).tags = {.job i} := by
      simp only [plan, Reaction.tags, Reaction.strands, Multiset.coe_nil, add_zero]
      exact tags_jobStrand hlt
    rw [htags]
    refine ⟨?_, ?_, hqueue⟩
    · show b.free = _
      simpa [Tag.slots] using hfree
    · simpa [Tag.slots] using hwithin
  | job i =>
    cases hq : b.queue with
    | nil =>
      rw [plan_job_of_nil now r hq]
      refine ⟨?_, fun n hn => ?_, fun hne => ?_⟩
      · have hbound : ∀ n, cap = some n → 1 + held ts ≤ n := hwithin
        simp only [finish, setStanding, hq, hfree, Option.map_map, Reaction.tags, Reaction.strands]
        cases cap with
        | none => rfl
        | some n =>
          have := hbound n rfl
          simp [Tag.slots]
          omega
      · have := hwithin n hn
        simp [Reaction.tags, Reaction.strands]
        omega
      · simp [finish, setStanding, hq] at hne
    | cons j queue =>
      rw [plan_job_of_cons now r hq]
      have hzero : b.free = some 0 := hqueue (by simp [hq])
      refine ⟨?_, ?_, fun _ => ?_⟩
      · simpa [finish, setStanding, hq, Reaction.tags, Reaction.strands, Tag.slots] using hfree
      · simpa [Reaction.tags, Reaction.strands, Tag.slots] using hwithin
      · simpa [finish, setStanding, hq] using hzero

theorem slotted {xs : Multiset (Strand Tag.Result)}
    (h : Runs plan (create jobs cap) (create jobs cap).opening log b xs) :
    Slotted cap b (tags xs) := by
  have hboth : Sound jobs log b (tags xs) ∧ Slotted cap b (tags xs) :=
    h.invariant (P := fun log b ts => Sound jobs log b ts ∧ Slotted cap b ts)
      ⟨sound_create jobs cap, slotted_create jobs cap⟩ fun h => ⟨h.1.turn, h.2.turn h.1⟩
  exact hboth.2

def result? : Ending Tag.Result → Option (Nat × Bool)
  | ⟨_, .job i, success, _⟩ => some (i, success)
  | ⟨_, .arrival _, _, _⟩ | ⟨_, .entry _, _, _⟩ => none

def resultsIn (log : List (Ending Tag.Result)) : Multiset (Nat × Bool) := log.filterMap result?

@[simp] theorem resultsIn_cons (e : Ending Tag.Result) (log : List (Ending Tag.Result)) :
    resultsIn (e :: log) = ((result? e).toList : Multiset (Nat × Bool)) + resultsIn log :=
  coe_filterMap_cons _ _ _

theorem map_fst_resultsIn (log : List (Ending Tag.Result)) :
    (resultsIn log).map Prod.fst = endedIn log := by
  have hresult : ∀ e : Ending Tag.Result, (result? e).map Prod.fst = e.tag.job? := by
    rintro ⟨_, t, _, _⟩
    cases t <;> rfl
  simp only [resultsIn, endedIn, Multiset.map_coe, List.map_filterMap, hresult]

/-- What the standings say of jobs that have ended is what their ends were. -/
def Recorded (log : List (Ending Tag.Result)) (b : Batch) : Prop :=
  ∀ i s, b.standings[i]? = some (.ended s) ↔ (i, s) ∈ resultsIn log

theorem recorded_create (jobs : List (Activity Bool)) (cap : Option Nat) :
    Recorded [] (create jobs cap) := by
  intro i s
  refine iff_of_false (fun h => ?_) (Multiset.notMem_zero _)
  have := List.mem_of_getElem? h
  simp [create] at this

theorem Sound.apart {t : Tag} (h : Sound jobs log b (t ::ₘ ts)) :
    t.index ∉ b.queue ∧ t.index ∉ endedIn log ∧ ∀ j ∈ b.queue, j ∉ endedIn log := by
  have hnodup : (t.index ::ₘ (ts.map Tag.index + b.queue + endedIn log)).Nodup := by
    have hplaces := h.places
    rw [Multiset.map_cons, Multiset.cons_add, Multiset.cons_add] at hplaces
    rw [hplaces]
    exact Multiset.nodup_range _
  obtain ⟨hnot, hrest⟩ := Multiset.nodup_cons.1 hnodup
  simp only [Multiset.mem_add, not_or, Multiset.mem_coe] at hnot
  obtain ⟨-, -, hdisjoint⟩ := Multiset.nodup_add.1 hrest
  exact ⟨hnot.1.2, hnot.2, fun j hj => Multiset.disjoint_left.1 hdisjoint
    (Multiset.mem_add.2 (.inr (Multiset.mem_coe.2 hj)))⟩

theorem Recorded.not_ended {j : Nat} (h : Recorded log b) (hj : j ∉ endedIn log) (s : Bool) :
    b.standings[j]? ≠ some (.ended s) := by
  intro hs
  apply hj
  rw [← map_fst_resultsIn]
  exact Multiset.mem_map_of_mem Prod.fst ((h j s).1 hs)

theorem ended_set_iff {standings : List Standing} {i j : Nat} {x : Standing} {s : Bool}
    (hx : x.hasEnded = false) (hi : ∀ s, standings[i]? ≠ some (.ended s)) :
    (standings.set i x)[j]? = some (.ended s) ↔ standings[j]? = some (.ended s) := by
  refine ⟨ended_set hx, fun h => ?_⟩
  rw [List.getElem?_set_ne]
  · exact h
  · rintro rfl
    exact hi s h

theorem Recorded.turn {now : Instant} {t : Tag} {r : t.Result}
    (hsound : Sound jobs log b (t ::ₘ ts)) (h : Recorded log b) :
    Recorded (⟨now, t, r, (plan now t r b).strands⟩ :: log) (plan now t r b).state := by
  obtain ⟨hqueue, hend, hwaiting⟩ := hsound.apart
  have hopen : ∀ s, b.standings[t.index]? ≠ some (.ended s) := h.not_ended hend
  intro k s
  cases t with
  | arrival i =>
    rw [resultsIn_cons]
    cases hroom : b.hasRoom with
    | true =>
      rw [plan_arrival_of_room now r hroom]
      exact (ended_set_iff rfl hopen).trans (by simpa [result?] using h k s)
    | false =>
      rw [plan_arrival_of_no_room now r hroom]
      exact (ended_set_iff rfl hopen).trans (by simpa [result?] using h k s)
  | entry i =>
    rw [resultsIn_cons]
    show b.standings[k]? = _ ↔ _
    simpa [result?] using h k s
  | job i =>
    change Bool at r
    have hlt : i < b.standings.length := by
      rw [hsound.length]
      exact hsound.index_lt
    have hset : (b.standings.set i (.ended r))[k]? = some (.ended s) ↔
        k = i ∧ s = r ∨ (k, s) ∈ resultsIn log := by
      rw [← h k s]
      by_cases hk : i = k
      · subst hk
        have hnone : ¬b.standings[i]? = some (.ended s) := hopen s
        rw [List.getElem?_set_self hlt, Option.some_inj, Standing.ended.injEq]
        simp only [hnone, or_false, true_and, eq_comm]
      · simp [hk, Ne.symm hk]
    have hrecorded : (k, s) ∈ resultsIn (⟨now, .job i, r, (plan now (.job i) r b).strands⟩ :: log) ↔
        k = i ∧ s = r ∨ (k, s) ∈ resultsIn log := by
      have hresult : result? ⟨now, .job i, r, (plan now (.job i) r b).strands⟩ = some (i, r) := rfl
      rw [resultsIn_cons, hresult]
      simp
    rw [hrecorded, ← hset]
    cases hq : b.queue with
    | nil =>
      rw [plan_job_of_nil now r hq]
      simp [finish, setStanding, hq]
    | cons j queue =>
      have hj : j ∈ b.queue := by simp [hq]
      have hne : i ≠ j := fun hij => hqueue (hij ▸ hj)
      rw [plan_job_of_cons now r hq]
      simp only [finish, setStanding, hq]
      refine ended_set_iff rfl fun s hs => ?_
      rw [List.getElem?_set_ne hne] at hs
      exact h.not_ended (hwaiting j hj) s hs

theorem recorded {xs : Multiset (Strand Tag.Result)}
    (h : Runs plan (create jobs cap) (create jobs cap).opening log b xs) : Recorded log b := by
  have hboth : Sound jobs log b (tags xs) ∧ Recorded log b :=
    h.invariant (P := fun log b ts => Sound jobs log b ts ∧ Recorded log b)
      ⟨sound_create jobs cap, recorded_create jobs cap⟩ fun h => ⟨h.1.turn, h.2.turn h.1⟩
  exact hboth.2

theorem finished_of_ended (hsound : Sound jobs log b ts) (h : Recorded log b)
    (hall : endedIn log = Multiset.range jobs.length) : b.finished = true := by
  rw [finished, List.all_eq_true]
  intro x hx
  obtain ⟨i, hi⟩ := List.mem_iff_getElem?.1 hx
  have hlt : i < jobs.length := by
    rw [← hsound.length]
    exact (List.getElem?_eq_some_iff.1 hi).1
  have hended : i ∈ endedIn log := hall ▸ Multiset.mem_range.2 hlt
  rw [← map_fst_resultsIn, Multiset.mem_map] at hended
  obtain ⟨⟨j, s⟩, hmem, rfl⟩ := hended
  rw [(h j s).2 hmem] at hi
  cases hi
  rfl

/-- Where no strand is left, no job waits either. -/
theorem finished_of_none (hcap : ∀ n, cap = some n → 0 < n) (hsound : Sound jobs log b 0)
    (hslotted : Slotted cap b 0) (h : Recorded log b) : b.finished = true := by
  have hqueue : b.queue = [] := by
    by_contra hne
    have hfree := hslotted.free
    rw [hslotted.queue hne, held_zero] at hfree
    cases hn : cap with
    | none => simp [hn] at hfree
    | some n =>
      have := hcap n hn
      simp [hn] at hfree
      omega
  refine finished_of_ended hsound h ?_
  rw [← hsound.places, hqueue]
  simp

/-- Steps of a job on its way to its end. -/
def Tag.distance : Tag → Nat
  | arrival _ => 4
  | entry _ => 2
  | job _ => 1

def distance (b : Batch) (ts : Multiset Tag) : Nat := 3 * b.queue.length + (ts.map Tag.distance).sum

theorem distance_jobStrand (b : Batch) (i : Nat) :
    ((tags (b.jobStrand i : Multiset (Strand Tag.Result))).map Tag.distance).sum ≤ 1 := by
  unfold jobStrand
  cases b.jobs[i]? with
  | none => exact Nat.zero_le 1
  | some job => exact Nat.le_refl 1

theorem distance_lowers (now : Instant) (t : Tag) (r : t.Result) (b : Batch) (ts : Multiset Tag) :
    distance (plan now t r b).state ((plan now t r b).tags + ts) < distance b (t ::ₘ ts) := by
  unfold distance
  rw [Multiset.map_add, Multiset.sum_add, Multiset.map_cons, Multiset.sum_cons]
  cases t with
  | arrival i =>
    cases hroom : b.hasRoom with
    | true =>
      rw [plan_arrival_of_room now r hroom]
      have hjob := distance_jobStrand ((b.take.setStanding i .working).start now i) i
      have hqueue : ((b.take.setStanding i .working).start now i).queue = b.queue := rfl
      simp only [Reaction.tags, Reaction.strands, Multiset.coe_nil, add_zero, Tag.distance, hqueue]
      omega
    | false =>
      rw [plan_arrival_of_no_room now r hroom]
      simp [Reaction.tags, Reaction.strands, Tag.distance]
      omega
  | entry i =>
    have hjob := distance_jobStrand b i
    have hqueue : (b.start now i).queue = b.queue := rfl
    simp only [plan, Reaction.tags, Reaction.strands, Multiset.coe_nil,
      add_zero, Tag.distance, hqueue]
    omega
  | job i =>
    cases hq : b.queue with
    | nil =>
      rw [plan_job_of_nil now r hq]
      simp [Reaction.tags, Reaction.strands, Tag.distance, finish, setStanding, hq]
    | cons j queue =>
      rw [plan_job_of_cons now r hq]
      simp [Reaction.tags, Reaction.strands, Tag.distance, finish, setStanding, hq]
      omega

end TestWorker.Batch
