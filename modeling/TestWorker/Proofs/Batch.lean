import TestWorker.Batch
import TestWorker.Proofs.Crew

namespace TestWorker.Batch

def Tag.index : Tag → Nat
  | arrival i | entry i | job i => i

def Tag.job? : Tag → Option Nat
  | job i => some i
  | _ => none

def started? : Strand Tag.Result → Option (Activity Bool × Nat)
  | ⟨.job i, a⟩ => some (a, i)
  | _ => none

/-- The jobs that were started, as what they do and with their numbers. -/
def startedIn (log : List (Ending Tag.Result)) : Multiset (Activity Bool × Nat) :=
  (log.map fun x => x.follows.filterMap started?).sum

def endedIn (log : List (Ending Tag.Result)) : Multiset Nat := log.filterMap fun x => x.tag.job?

def numbered (jobs : List (Activity Bool)) (i : Nat) : Option (Activity Bool × Nat) :=
  jobs[i]?.map fun a => (a, i)

theorem numbered_of_lt {jobs : List (Activity Bool)} {i : Nat} (h : i < jobs.length) :
    numbered jobs i = some (jobs[i], i) := by
  simp [numbered, h]

theorem numbered_range (jobs : List (Activity Bool)) :
    (List.range jobs.length).filterMap (numbered jobs) = jobs.zipIdx := by
  induction jobs using List.reverseRecOn with
  | nil => rfl
  | append_singleton jobs a ih =>
    have hcongr : (List.range jobs.length).filterMap (numbered (jobs ++ [a])) =
        (List.range jobs.length).filterMap (numbered jobs) := by
      apply List.filterMap_congr
      intro i hi
      rw [numbered, numbered, List.getElem?_append_left (List.mem_range.1 hi)]
    rw [List.length_append, List.length_singleton, List.range_succ, List.filterMap_append, hcongr,
      ih, List.zipIdx_append]
    simp [numbered]

theorem jobStrand_of_lt {b : Batch} {i : Nat} (h : i < b.jobs.length) :
    b.jobStrand i = [⟨.job i, b.jobs[i]⟩] := by
  simp [jobStrand, h]

@[simp] theorem startedIn_cons (e : Ending Tag.Result) (log : List (Ending Tag.Result)) :
    startedIn (e :: log) = e.follows.filterMap started? + startedIn log := rfl

@[simp] theorem endedIn_cons (e : Ending Tag.Result) (log : List (Ending Tag.Result)) :
    endedIn (e :: log) = (e.tag.job?.toList : Multiset Nat) + endedIn log :=
  coe_filterMap_cons _ _ _

section Turns
variable {b : Batch} {i : Nat} (now : Instant)

theorem plan_arrival_of_room (r : Unit) (h : b.hasRoom = true) :
    plan now (.arrival i) r b =
      { state := (b.take.setStanding i .working).start now i
        first := ((b.take.setStanding i .working).start now i).jobStrand i } := by
  simp only [plan, arrive, h, if_true]
  rfl

theorem plan_arrival_of_no_room (r : Unit) (h : b.hasRoom = false) :
    plan now (.arrival i) r b =
      { state := { b.setStanding i .waiting with queue := b.queue ++ [i] } } := by
  simp [plan, arrive, h]

theorem plan_job_of_nil (success : Bool) (h : b.queue = []) :
    plan now (.job i) success b = { state := (b.finish now i success).1 } := by
  simp [plan, finish, setStanding, h]

theorem plan_job_of_cons (success : Bool) {j : Nat} {queue : List Nat} (h : b.queue = j :: queue) :
    plan now (.job i) success b =
      { state := (b.finish now i success).1, later := [⟨.entry j, .done ()⟩] } := by
  simp [plan, finish, setStanding, h]

/-- A turn leads to a job, to one that goes to its slot, or to nothing. -/
theorem strands_plan (t : Tag) (r : t.Result) (b : Batch) :
    (∃ i, (plan now t r b).strands = (b.jobStrand i : List _)) ∨
      (∃ j, (plan now t r b).strands = {⟨.entry j, .done ()⟩}) ∨ (plan now t r b).strands = 0 := by
  cases t with
  | arrival i =>
    cases hroom : b.hasRoom with
    | true =>
      rw [plan_arrival_of_room now r hroom]
      exact .inl ⟨i, add_zero _⟩
    | false =>
      rw [plan_arrival_of_no_room now r hroom]
      exact .inr (.inr rfl)
  | entry i => exact .inl ⟨i, add_zero _⟩
  | job i =>
    cases hq : b.queue with
    | nil =>
      rw [plan_job_of_nil now r hq]
      exact .inr (.inr rfl)
    | cons j queue =>
      rw [plan_job_of_cons now r hq]
      exact .inr (.inl ⟨j, rfl⟩)

end Turns

/-- What holds throughout the runs of a batch. -/
structure Sound (jobs : List (Activity Bool)) (log : List (Ending Tag.Result)) (b : Batch)
    (ts : Multiset Tag) : Prop where
  same : b.jobs = jobs
  length : b.standings.length = jobs.length
  /-- Every job is at one place. -/
  places : ts.map Tag.index + b.queue + endedIn log = Multiset.range jobs.length
  ended : ∀ i s, b.standings[i]? = some (.ended s) → i ∈ endedIn log
  started : startedIn log = (ts.filterMap Tag.job? + endedIn log).filterMap (numbered jobs)

variable {jobs : List (Activity Bool)} {log : List (Ending Tag.Result)}
  {b : Batch} {ts : Multiset Tag}

theorem sound_create (jobs : List (Activity Bool)) (slots : Option Nat) :
    Sound jobs [] (create jobs slots)
      (tags ((create jobs slots).opening : Multiset (Strand Tag.Result))) := by
  have htags : tags ((create jobs slots).opening : Multiset (Strand Tag.Result)) =
      (Multiset.range jobs.length).map Tag.arrival := by
    rw [tags_coe, opening, List.map_map]
    rfl
  rw [htags]
  refine ⟨rfl, by simp [create], ?_, ?_, ?_⟩
  · rw [Multiset.map_map]
    simp [Function.comp_def, Tag.index, create, endedIn]
  · intro i s hi
    have := List.mem_of_getElem? hi
    simp [create] at this
  · rw [Multiset.filterMap_map]
    simp [Function.comp_def, Tag.job?, startedIn, endedIn, Multiset.range]

theorem Sound.index_lt {t : Tag} (h : Sound jobs log b (t ::ₘ ts)) : t.index < jobs.length := by
  have hmem : t.index ∈ Multiset.range jobs.length := by
    rw [← h.places]
    simp
  exact Multiset.mem_range.1 hmem

theorem ended_set {standings : List Standing} {i j : Nat} {s : Standing}
    {t : Bool} (hs : s.hasEnded = false) (h : (standings.set i s)[j]? = some (.ended t)) :
    standings[j]? = some (.ended t) := by
  rw [List.getElem?_set] at h
  grind [Standing.hasEnded]

/-- A job starts: its strand is the job itself. -/
theorem Sound.starts {t : Tag} {r : t.Result} {now : Instant} {b' : Batch}
    (h : Sound jobs log b (t ::ₘ ts)) (ht : t.job? = none) (hjobs : b'.jobs = b.jobs)
    (hqueue : b'.queue = b.queue) (hlength : b'.standings.length = b.standings.length)
    (hended : ∀ (j : Nat) (s : Bool), b'.standings[j]? = some (Standing.ended s) →
      b.standings[j]? = some (Standing.ended s)) :
    let x : Reaction Tag.Result Batch := { state := b', first := b'.jobStrand t.index }
    Sound jobs (⟨now, t, r, x.strands⟩ :: log) x.state (x.tags + ts) := by
  intro x
  have hlt := h.index_lt
  obtain ⟨hsame, hlen, hplaces, hend, hstarted⟩ := h
  have hstrands : x.strands = {⟨.job t.index, jobs[t.index]⟩} := by
    subst hsame
    rw [← hjobs] at hlt
    simp only [x, Reaction.strands, jobStrand_of_lt hlt, hjobs]
    rfl
  have htags : x.tags = {.job t.index} := by
    rw [Reaction.tags, hstrands, tags_singleton]
  have hjob : (Tag.job t.index).job? = some t.index := rfl
  rw [htags]
  refine ⟨hjobs.trans hsame, hlength.trans hlen, ?_, ?_, ?_⟩
  · rw [← hplaces]
    simp [x, ht, hqueue, Tag.index]
  · intro j s hj
    simpa [ht] using hend j s (hended j s hj)
  · have hstart : started? ⟨.job t.index, jobs[t.index]⟩ = some (jobs[t.index], t.index) := rfl
    rw [startedIn_cons, hstrands, hstarted, endedIn_cons]
    simp [ht, hjob, hstart, numbered_of_lt hlt]

theorem Sound.waits {i : Nat} {r : Unit} {now : Instant}
    (h : Sound jobs log b (.arrival i ::ₘ ts)) :
    Sound jobs (⟨now, .arrival i, r, 0⟩ :: log)
      { b.setStanding i .waiting with queue := b.queue ++ [i] } ts := by
  obtain ⟨hsame, hlen, hplaces, hend, hstarted⟩ := h
  refine ⟨hsame, by simpa [setStanding] using hlen, ?_, ?_, ?_⟩
  · rw [← hplaces, ← Multiset.coe_add, Multiset.coe_singleton]
    simp [Tag.index, Tag.job?, add_assoc, add_left_comm, ← Multiset.singleton_add]
  · intro j s hj
    simpa [Tag.job?] using hend j s (ended_set rfl hj)
  · simpa [Tag.job?] using hstarted

/-- A job ends, and its slot goes to the next one that waits. -/
theorem Sound.ends {i : Nat} {success : Bool} {now : Instant}
    (h : Sound jobs log b (.job i ::ₘ ts)) :
    Sound jobs (⟨now, .job i, success, (plan now (.job i) success b).strands⟩ :: log)
      (plan now (.job i) success b).state ((plan now (.job i) success b).tags + ts) := by
  obtain ⟨hsame, hlen, hplaces, hend, hstarted⟩ := h
  have hend' (j : Nat) (s : Bool)
      (hj : (b.standings.set i (.ended success))[j]? = some (Standing.ended s)) :
      j ∈ i ::ₘ endedIn log := by
    by_cases hij : i = j
    · exact Multiset.mem_cons.2 (.inl hij.symm)
    · rw [List.getElem?_set_ne hij] at hj
      exact Multiset.mem_cons_of_mem (hend j s hj)
  have hstarted' : startedIn log =
      (ts.filterMap Tag.job? + (i ::ₘ endedIn log)).filterMap (numbered jobs) := by
    rw [hstarted]
    simp [Tag.job?]
  cases hqueue : b.queue with
  | nil =>
    rw [plan_job_of_nil now success hqueue]
    refine ⟨?_, ?_, ?_, ?_, ?_⟩
    · simpa [finish, setStanding, hqueue] using hsame
    · simpa [finish, setStanding, hqueue] using hlen
    · rw [← hplaces]
      simp [finish, setStanding, hqueue, Reaction.tags, Reaction.strands, Tag.job?, Tag.index]
    · simpa [finish, setStanding, hqueue, Tag.job?] using hend'
    · simpa [Reaction.tags, Reaction.strands, Tag.job?] using hstarted'
  | cons j queue =>
    rw [plan_job_of_cons now success hqueue]
    refine ⟨?_, ?_, ?_, ?_, ?_⟩
    · simpa [finish, setStanding, hqueue] using hsame
    · simpa [finish, setStanding, hqueue] using hlen
    · rw [← hplaces]
      simp [finish, setStanding, hqueue, Reaction.tags, Reaction.strands, Tag.job?, Tag.index,
        ← Multiset.cons_coe, ← Multiset.singleton_add, add_assoc, add_left_comm]
    · intro k s hk
      simp only [finish, setStanding, hqueue] at hk
      simpa [Tag.job?] using hend' k s (ended_set rfl hk)
    · simpa [Reaction.tags, Reaction.strands, Tag.job?, started?] using hstarted'

theorem Sound.turn {now : Instant} {t : Tag} {r : t.Result} (h : Sound jobs log b (t ::ₘ ts)) :
    Sound jobs (⟨now, t, r, (plan now t r b).strands⟩ :: log) (plan now t r b).state
      ((plan now t r b).tags + ts) := by
  cases t with
  | arrival i =>
    cases hroom : b.hasRoom with
    | true =>
      rw [plan_arrival_of_room now r hroom]
      exact h.starts rfl rfl rfl (by simp [start, setStanding, take]) fun j s hj => ended_set rfl hj
    | false =>
      rw [plan_arrival_of_no_room now r hroom]
      simpa [Reaction.strands, Reaction.tags] using h.waits
  | entry i => exact h.starts rfl rfl rfl rfl fun j s hj => hj
  | job i => exact h.ends

theorem sound {slots : Option Nat} {xs : Multiset (Strand Tag.Result)}
    (h : Runs plan (create jobs slots) (create jobs slots).opening log b xs) :
    Sound jobs log b (tags xs) :=
  h.invariant (P := Sound jobs) (sound_create jobs slots) Sound.turn

theorem running_le (ts : Multiset Tag) : ts.filterMap Tag.job? ≤ ts.map Tag.index := by
  induction ts using Multiset.induction with
  | empty => exact le_rfl
  | cons t ts ih =>
    rw [Multiset.map_cons]
    cases t with
    | arrival i | entry i =>
      rw [Multiset.filterMap_cons_none _ _ rfl]
      exact ih.trans (Multiset.le_cons_self _ _)
    | job i =>
      have hjob : (Tag.job i).job? = some i := rfl
      rw [Multiset.filterMap_cons_some _ _ _ hjob]
      exact Multiset.cons_le_cons _ ih

theorem Sound.once (h : Sound jobs log b ts) :
    startedIn log ≤ jobs.zipIdx ∧ endedIn log ≤ Multiset.range jobs.length := by
  obtain ⟨-, -, hplaces, -, hstarted⟩ := h
  have hle : ts.filterMap Tag.job? + endedIn log ≤ Multiset.range jobs.length := by
    rw [← hplaces]
    exact add_le_add_left ((running_le ts).trans (Multiset.le_add_right _ _)) _
  refine ⟨?_, (Multiset.le_add_left _ _).trans hle⟩
  rw [hstarted, ← numbered_range]
  exact Multiset.filterMap_le_filterMap (numbered jobs) hle

/-- When all jobs have ended, each was started once and ended once, and nothing is left. -/
theorem Sound.finished (h : Sound jobs log b ts) (hfinished : b.finished) :
    endedIn log = Multiset.range jobs.length ∧ startedIn log = jobs.zipIdx ∧ ts = 0 := by
  obtain ⟨-, hlen, hplaces, hend, hstarted⟩ := h
  -- all numbers are taken by jobs that have ended, so the other places are empty
  have hle : Multiset.range jobs.length ≤ endedIn log := by
    refine (Multiset.le_iff_subset (Multiset.nodup_range _)).2 fun i hi => ?_
    have hi : i < b.standings.length := hlen ▸ Multiset.mem_range.1 hi
    have hstanding := List.all_eq_true.1 hfinished _ (List.getElem_mem hi)
    cases hs : b.standings[i] with
    | ended s => exact hend i s (by rw [List.getElem?_eq_getElem hi, hs])
    | _ => simp [hs, Standing.hasEnded] at hstanding
  have hended : endedIn log = Multiset.range jobs.length :=
    le_antisymm (hplaces ▸ Multiset.le_add_left _ _) hle
  have hnone : ts = 0 := by
    rw [hended, add_eq_right, add_eq_zero] at hplaces
    exact Multiset.map_eq_zero.1 hplaces.1
  refine ⟨hended, ?_, hnone⟩
  rw [hstarted, hnone, hended, Multiset.filterMap_zero, zero_add, ← numbered_range]
  rfl

end TestWorker.Batch
