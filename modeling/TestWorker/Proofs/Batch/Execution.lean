import TestWorker.Proofs.Batch.Slots
import TestWorker.Rehearsal

namespace TestWorker

def Activity.Waits {α : Type} (a : Activity α) : Prop := ∃ e next, a = .ask e next

/-- What is left of an isolated job that is done tells whether the job came to its end. -/
theorem Worker.isolated_goes {c : Console} {name : String} {job : Attempt Unit}
    {now later : Instant} {beats : List Beat} {success : Bool}
    (h : (isolated c name job).Goes now beats later (.done success)) :
    ∃ bs mid x, bs <+: beats ∧ job.outcome.Goes now bs mid (.done x) ∧
      (success = true ↔ x = .ok ()) := by
  obtain ⟨bs, mid, x, cs, rfl, hjob, hrest⟩ := Activity.goes_bind h
  refine ⟨bs, mid, x, List.prefix_append bs cs, hjob, ?_⟩
  cases x with
  | ok u =>
    obtain ⟨-, -, hdone⟩ := hrest.of_done
    cases hdone
    exact iff_of_true rfl rfl
  | error f =>
    obtain ⟨_, _, _, _, -, -, hlast⟩ := Activity.goes_bind hrest
    obtain ⟨-, -, hdone⟩ := hlast.of_done
    cases hdone
    exact iff_of_false Bool.false_ne_true nofun

namespace Batch

variable {ι σ : Type}

/-- The jobs of a list, each kept apart from the others. -/
def isolated (c : Console) (name : ι → String) (execute : ι → Attempt Unit) (raws : List ι) :
    List (Activity Bool) :=
  raws.map fun raw => Worker.isolated c (name raw) (execute raw)

def crew (b : Batch) (surroundings : σ) : Crew Tag.Result Batch σ :=
  { ready := b.opening, state := b, surroundings }

def running (xs : Multiset (Story Tag.Result)) : Multiset Nat := xs.filterMap fun x => x.tag.job?

/-- Where a run of a batch has come to. -/
structure Executes (execute : ι → Attempt Unit) (raws : List ι) (jobs : List (Activity Bool))
    (cap : Option Nat) (log : List (Ending Tag.Result × Story Tag.Result)) (b : Batch)
    (xs : Multiset (Story Tag.Result)) : Prop where
  /-- No job is started twice, and none but the jobs of the list. -/
  once : startedIn (log.map Prod.fst) ≤ jobs.zipIdx
  within : ∀ n, cap = some n → (running xs).card ≤ n
  /-- Where nothing but replies is waited for, a job that has not been started finds all slots
  taken. -/
  busy : (∀ x ∈ xs, x.rest.Waits) →
    ∀ i < raws.length, i ∉ (startedIn (log.map Prod.fst)).map Prod.snd →
    ∃ n, cap = some n ∧ (running xs).card = n
  /-- The batch has ended once no strand is left. -/
  ended : xs = 0 → b.finished = true
  all : b.finished = true → startedIn (log.map Prod.fst) = jobs.zipIdx ∧
    endedIn (log.map Prod.fst) = Multiset.range raws.length ∧ xs = 0
  /-- One flag for each job, which tells whether the execution came to its end without a fault. -/
  flags : b.finished = true → b.flags.length = raws.length ∧ ∀ i (hi : i < raws.length),
    ∃ e ∈ log, e.1.tag = .job i ∧ ∃ beats mid x, beats <+: e.2.beats ∧
      (execute raws[i]).outcome.Goes e.2.began beats mid (.done x) ∧
        (b.flags[i]? = some true ↔ x = .ok ())

variable {jobs : List (Activity Bool)} {cap : Option Nat} {t₀ : Instant}
  {log : List (Ending Tag.Result × Story Tag.Result)} {b : Batch} {xs : Multiset (Story Tag.Result)}

theorem running_eq (xs : Multiset (Story Tag.Result)) :
    running xs = (tags (xs.map Story.strand)).filterMap Tag.job? := by
  rw [tags, Multiset.map_map, Multiset.filterMap_map]
  rfl

theorem card_running_le (ts : Multiset Tag) : (ts.filterMap Tag.job?).card ≤ held ts := by
  induction ts using Multiset.induction with
  | empty => exact Nat.le_refl 0
  | cons t ts ih =>
    rw [filterMap_cons, Multiset.card_add, held_cons]
    cases t <;> simp [Tag.job?, Tag.slots] <;> omega

theorem tag_of_mem_jobStrand {i : Nat} {x : Strand Tag.Result} (h : x ∈ b.jobStrand i) :
    x.tag = .job i := by
  unfold jobStrand at h
  split at h
  · rw [List.mem_singleton.1 h]
  · cases h

theorem done_of_mem_strands (now : Instant) (t : Tag) (r : t.Result) (b : Batch) :
    ∀ x ∈ (plan now t r b).strands, x.tag.job? = none → ∃ r', x.rest = .done r' := by
  intro x hx hnone
  rcases strands_plan now t r b with ⟨i, hi⟩ | ⟨j, hj⟩ | hzero
  · rw [hi] at hx
    rw [tag_of_mem_jobStrand (Multiset.mem_coe.1 hx)] at hnone
    cases hnone
  · rw [hj] at hx
    obtain rfl := Multiset.mem_singleton.1 hx
    exact ⟨(), rfl⟩
  · rw [hzero] at hx
    exact absurd hx (Multiset.notMem_zero x)

theorem card_running (h : ∀ x ∈ xs, ∃ i, x.tag = .job i) :
    (running xs).card = held (tags (xs.map Story.strand)) := by
  induction xs using Multiset.induction with
  | empty => rfl
  | cons x xs ih =>
    obtain ⟨⟨i, hi⟩, hxs⟩ := Multiset.forall_mem_cons.1 h
    have hstrand : x.strand.tag = .job i := hi
    rw [running, filterMap_cons, hi, Multiset.card_add, Multiset.map_cons, tags_cons, held_cons,
      hstrand, ← ih hxs]
    rfl

/-- A strand that waits for a reply is a job. -/
theorem job_of_waits (h : Unfolds plan t₀ (create jobs cap) (create jobs cap).opening log b xs)
    {x : Story Tag.Result} (hx : x ∈ xs) (hwaits : x.rest.Waits) : ∃ i, x.tag = .job i := by
  have hsource : x.tag.job? = none → ∃ r, x.origin = .done r := by
    refine h.forall_source (P := fun y => y.tag.job? = none → ∃ r, y.rest = .done r) ?_
      done_of_mem_strands x hx
    intro y hy _
    obtain ⟨i, -, rfl⟩ := List.mem_map.1 (Multiset.mem_coe.1 hy)
    exact ⟨(), rfl⟩
  cases hjob : x.tag.job? with
  | some i =>
    cases htag : x.tag with
    | job j => exact ⟨j, rfl⟩
    | arrival | entry => rw [htag] at hjob; cases hjob
  | none =>
    obtain ⟨r, hr⟩ := hsource hjob
    have hgoes := x.goes
    rw [hr] at hgoes
    obtain ⟨e, next, hask⟩ := hwaits
    rw [hgoes.of_done.2.2] at hask
    cases hask

/-- A job that is neither running nor started before waits for a slot, where all others wait for
replies. -/
theorem queue_of_not_started (hsound : Sound jobs (log.map Prod.fst) b (tags (xs.map Story.strand)))
    (hjobs : ∀ x ∈ xs, ∃ i, x.tag = .job i) {i : Nat} (hi : i < jobs.length)
    (hnot : i ∉ (startedIn (log.map Prod.fst)).map Prod.snd) : b.queue ≠ [] := by
  intro hqueue
  apply hnot
  have hplace : i ∈ Multiset.range jobs.length := Multiset.mem_range.2 hi
  rw [← hsound.places, hqueue, Multiset.coe_nil, add_zero] at hplace
  have hstarted : i ∈ (tags (xs.map Story.strand)).filterMap Tag.job? +
      endedIn (log.map Prod.fst) := by
    rcases Multiset.mem_add.1 hplace with hplace | hended
    · refine Multiset.mem_add.2 (.inl ?_)
      obtain ⟨t, ht, rfl⟩ := Multiset.mem_map.1 hplace
      rw [tags, Multiset.map_map] at ht
      obtain ⟨x, hx, rfl⟩ := Multiset.mem_map.1 ht
      obtain ⟨j, hj⟩ := hjobs x hx
      have hjob : (x.strand.tag).job? = some x.strand.tag.index := by
        rw [show x.strand.tag = .job j from hj]
        rfl
      exact (Multiset.mem_filterMap _ _).2
        ⟨_, Multiset.mem_map_of_mem _ (Multiset.mem_map_of_mem _ hx), hjob⟩
    · exact Multiset.mem_add.2 (.inr hended)
  rw [hsound.started, Multiset.mem_map]
  exact ⟨(jobs[i], i), (Multiset.mem_filterMap _ _).2 ⟨i, hstarted, numbered_of_lt hi⟩, rfl⟩

theorem mem_sum_map {α β : Type} {l : List α} {f : α → Multiset β} {y : β} :
    y ∈ (l.map f).sum ↔ ∃ a ∈ l, y ∈ f a := by
  induction l with
  | nil => simp
  | cons a l ih => simp [ih]

/-- Each job that has ended was the job of its number. -/
theorem goes_of_ended (h : Unfolds plan t₀ (create jobs cap) (create jobs cap).opening log b xs)
    {e : Ending Tag.Result × Story Tag.Result} (he : e ∈ log)
    {i : Nat} {success : Bool} (hresult : result? e.1 = some (i, success)) :
    e.1.tag = .job i ∧ ∃ job, jobs[i]? = some job ∧
      job.Goes e.2.began e.2.beats e.2.now (.done success) := by
  have hbegan : e.2.source ∈ ((create jobs cap).opening : Multiset (Strand Tag.Result)) +
      (log.map fun e => e.1.follows).sum := by
    rw [← h.sources]
    exact Multiset.mem_add.2 (.inl (Multiset.mem_coe.2 (List.mem_map_of_mem he)))
  have hdated := h.endings e he
  have honce := (sound h.runs).once.1
  obtain ⟨⟨time, tag, result, follows⟩, ⟨tag', began, origin, beats, now, rest, hgoes⟩⟩ := e
  obtain ⟨rfl, rfl, hdone⟩ : now = time ∧ tag' = tag ∧ HEq rest (Activity.done result) := by
    simpa [Story.dated, Story.strand] using hdated
  cases hdone
  cases tag' with
  | arrival | entry => cases hresult
  | job j =>
    cases hresult
    refine ⟨rfl, origin, ?_, hgoes⟩
    rcases Multiset.mem_add.1 hbegan with hopening | hfollows
    · obtain ⟨k, -, hk⟩ := List.mem_map.1 (Multiset.mem_coe.1 hopening)
      cases congrArg Strand.tag hk
    · obtain ⟨d, hd, hmem⟩ := mem_sum_map.1 hfollows
      have hstarted : (origin, i) ∈ startedIn (log.map Prod.fst) := by
        refine mem_sum_map.2 ⟨d.1, List.mem_map_of_mem hd, ?_⟩
        exact (Multiset.mem_filterMap _ _).2 ⟨_, hmem, rfl⟩
      exact List.mk_mem_zipIdx_iff_getElem?.1
        (Multiset.mem_coe.1 (Multiset.subset_of_le honce hstarted))

theorem flags_of_finished (h : Unfolds plan t₀ (create jobs cap) (create jobs cap).opening log b xs)
    (hfinished : b.finished = true) :
    b.flags.length = jobs.length ∧ ∀ i < jobs.length, ∃ e ∈ log, ∃ success,
      result? e.1 = some (i, success) ∧ b.flags[i]? = some success := by
  have hlength := (sound h.runs).length
  refine ⟨by rw [flags, List.length_map, hlength], fun i hi => ?_⟩
  have hlt : i < b.standings.length := hlength ▸ hi
  have hended : b.standings[i].hasEnded = true :=
    List.all_eq_true.1 hfinished _ (List.getElem_mem hlt)
  cases hs : b.standings[i] with
  | ended success =>
    have hsome : b.standings[i]? = some (.ended success) := by rw [List.getElem?_eq_getElem hlt, hs]
    have hresult := (recorded h.runs i success).1 hsome
    rw [resultsIn, Multiset.mem_coe, List.mem_filterMap] at hresult
    obtain ⟨d, hd, hresult⟩ := hresult
    obtain ⟨e, he, rfl⟩ := List.mem_map.1 hd
    refine ⟨e, he, success, hresult, ?_⟩
    rw [flags, List.getElem?_map, hsome]
    rfl
  | _ => simp [hs, Standing.hasEnded] at hended

theorem executes (c : Console) (name : ι → String) (execute : ι → Attempt Unit) (raws : List ι)
    (hcap : ∀ n, cap = some n → 0 < n)
    (h : Unfolds plan t₀ (create (isolated c name execute raws) cap)
      (create (isolated c name execute raws) cap).opening log b xs) :
    Executes execute raws (isolated c name execute raws) cap log b xs := by
  have hsound := sound h.runs
  have hslotted := slotted h.runs
  have hlength : (isolated c name execute raws).length = raws.length := List.length_map _
  refine ⟨hsound.once.1, fun n hn => ?_, fun hwaits i hi hnot => ?_, fun hxs => ?_,
    fun hfinished => ?_, fun hfinished => ?_⟩
  · rw [running_eq]
    exact (card_running_le _).trans (hslotted.within n hn)
  · have hjobs : ∀ x ∈ xs, ∃ i, x.tag = .job i := fun x hx => job_of_waits h hx (hwaits x hx)
    have hfree := hslotted.queue (queue_of_not_started hsound hjobs (hlength ▸ hi) hnot)
    have hcard : (running xs).card = held (tags (xs.map Story.strand)) := card_running hjobs
    rw [hslotted.free] at hfree
    cases hn : cap with
    | none => simp [hn] at hfree
    | some n =>
      have hwithin := hslotted.within n hn
      refine ⟨n, rfl, ?_⟩
      simp [hn] at hfree
      omega
  · subst hxs
    exact finished_of_none hcap hsound hslotted (recorded h.runs)
  · obtain ⟨hended, hstarted, hnone⟩ := hsound.finished hfinished
    rw [hlength] at hended
    refine ⟨hstarted, hended, ?_⟩
    rw [tags, Multiset.map_map] at hnone
    exact Multiset.map_eq_zero.1 hnone
  · obtain ⟨hflags, hresults⟩ := flags_of_finished h hfinished
    refine ⟨hflags.trans hlength, fun i hi => ?_⟩
    obtain ⟨e, he, success, hresult, hflag⟩ := hresults i (hlength ▸ hi)
    obtain ⟨htag, job, hjob, hgoes⟩ := goes_of_ended h he hresult
    have horigin : job = Worker.isolated c (name raws[i]) (execute raws[i]) := by
      simpa [isolated, hi, eq_comm] using hjob
    subst horigin
    obtain ⟨beats, mid, x, hprefix, hexecute, hsuccess⟩ := Worker.isolated_goes hgoes
    refine ⟨e, he, htag, beats, mid, x, hprefix, hexecute, ?_⟩
    rw [hflag, Option.some_inj]
    exact hsuccess

theorem pos_of_slots {concurrency : Option Int} (h : slots concurrency = .ok cap) (n : Nat)
    (hn : cap = some n) : 0 < n := by
  subst hn
  unfold slots at h
  split at h
  · cases h
  · split at h
    · cases h
    · split at h
      · cases h
      · cases h
        omega

/-- Every run of a batch executes its jobs, and every crew that runs it, in any surroundings, comes
to where all of them have ended. -/
theorem batch_executes (c : Console) (name : ι → String) (execute : ι → Attempt Unit)
    (raws : List ι) {concurrency : Option Int} (hcap : slots concurrency = .ok cap) :
    (∀ t₀ log b xs, Unfolds plan t₀ (create (isolated c name execute raws) cap)
        (create (isolated c name execute raws) cap).opening log b xs →
      Executes execute raws (isolated c name execute raws) cap log b xs) ∧
    ∀ (o : Outside σ) (surroundings : σ), ∃ n, ∀ fuel, n ≤ fuel →
      ∃ log b xs, Unfolds plan 0 (create (isolated c name execute raws) cap)
          (create (isolated c name execute raws) cap).opening log b xs ∧ b.finished = true ∧
        b = (Crew.runUntil plan o finished fuel
          (crew (create (isolated c name execute raws) cap) surroundings)).state := by
  have hexecutes : ∀ t₀ log b xs, Unfolds plan t₀ (create (isolated c name execute raws) cap)
      (create (isolated c name execute raws) cap).opening log b xs →
      Executes execute raws (isolated c name execute raws) cap log b xs :=
    fun _ _ _ _ h => executes c name execute raws (pos_of_slots hcap) h
  refine ⟨hexecutes, fun o surroundings => ?_⟩
  have hstrands : (crew (create (isolated c name execute raws) cap) surroundings).strands =
      (create (isolated c name execute raws) cap).opening := by simp [Crew.strands, crew]
  have hstart := Crew.unfolded_start (p := plan)
    (c := crew (create (isolated c name execute raws) cap) surroundings) rfl
  rw [hstrands] at hstart
  obtain ⟨n, hn⟩ := Crew.exists_end_of_lowers (o := o) (I := fun _ => True) finished
    (fun _ _ _ _ _ => trivial) (fun _ _ _ _ _ _ _ => distance_lowers _ _ _ _ _)
    (crew (create (isolated c name execute raws) cap) surroundings) trivial
  refine ⟨n, fun fuel hfuel => ?_⟩
  obtain ⟨log, xs, hunfolded⟩ := hstart.runUntil finished fuel
  refine ⟨log, _, xs, hunfolded.unfolds, ?_, rfl⟩
  rcases (hn fuel hfuel).2 with hfinished | hnone
  · exact hfinished
  · apply (hexecutes _ _ _ _ hunfolded.unfolds).ended
    have hdated := congrArg (Multiset.map Prod.snd) hunfolded.dated
    rw [Crew.map_snd_dated, hnone, Multiset.map_map] at hdated
    exact Multiset.map_eq_zero.1 hdated

def failing (i : Nat) : Attempt Unit :=
  if i = 1 then throw (.badValue "bad job") else liftM (Activity.pause (640 * (i + 1)))

def three : List (Activity Bool) := isolated {} toString failing [0, 1, 2]

def threeDone : Crew Tag.Result Batch Rehearsal :=
  Crew.runUntil plan Rehearsal.outside finished 40 (crew (create three (some 2)) {})

theorem batch_executes_three : slots (some 2) = .ok (some 2) ∧
    ∃ log xs, Unfolds plan 0 (create three (some 2)) (create three (some 2)).opening
      log threeDone.state xs ∧
      Executes failing [0, 1, 2] three (some 2) log threeDone.state xs ∧
      threeDone.state.finished = true ∧ threeDone.state.flags = [true, false, true] := by
  have hslots : slots (some 2) = .ok (some 2) := rfl
  obtain ⟨hexecutes, -⟩ := batch_executes (σ := Rehearsal) {} toString failing [0, 1, 2] hslots
  have hstart :=
    Crew.unfolded_start (p := plan) (c := crew (create three (some 2)) ({} : Rehearsal)) rfl
  obtain ⟨log, xs, hunfolded⟩ := hstart.runUntil finished 40
  have hfinished : threeDone.state.finished = true ∧
      threeDone.state.flags = [true, false, true] := by
    decide +kernel
  exact ⟨hslots, log, xs, hunfolded.unfolds, hexecutes _ _ _ _ hunfolded.unfolds, hfinished⟩

end Batch
end TestWorker
