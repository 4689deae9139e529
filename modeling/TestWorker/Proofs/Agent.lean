import TestWorker.Agent
import TestWorker.Proofs.Cycle.Halves
import TestWorker.Proofs.Shift.Drain

namespace TestWorker.Agent

variable {σ : Type} {w : Worker} {calls : List (Nat × Nat)}
  {log : List (Ending (Shift.Tag.Result Cycle.Tag.Result))} {s : Shift (List Cycle)}
  {xs : Multiset (Strand (Shift.Tag.Result Cycle.Tag.Result))} {n : Nat}

/-- The signals of some numbers, each after so much time. -/
def signalled (w : Worker) (calls : List (Nat × Nat)) (c : Crew σ) : Crew σ :=
  calls.foldl (fun c call => signal w call.1 call.2 c) c

def stops (w : Worker) (calls : List (Nat × Nat)) : List (Nat × List Line) :=
  calls.map fun call => (call.1, w.console.info (received call.2))

/-- Runs of a worker, in every order of its strands. -/
def Runs (w : Worker) (calls : List (Nat × Nat))
    (log : List (Ending (Shift.Tag.Result Cycle.Tag.Result)))
    (s : Shift (List Cycle)) (xs : Multiset (Strand (Shift.Tag.Result Cycle.Tag.Result))) : Prop :=
  TestWorker.Runs (plan w)
    (Shift.fresh (w.settings.frequency.getD 0) (w.settings.maxTime.getD 0) [])
    (Shift.opening (stops w calls)) log s xs

def strandsOf (n : Nat) (k : Coordinator.Kind)
    (xs : Multiset (Strand (Shift.Tag.Result Cycle.Tag.Result))) :
    Multiset (Strand Half.Tag.Result) := Cycle.strandsOf n k (xs.filterMap Shift.inner?)

def logOf (n : Nat) (k : Coordinator.Kind)
    (log : List (Ending (Shift.Tag.Result Cycle.Tag.Result))) :
    List (Ending Half.Tag.Result) := Cycle.logOf n k (log.filterMap Shift.innerEnding?)

theorem signalled_crew (w : Worker) (calls : List (Nat × Nat)) (surroundings : σ) :
    signalled w calls (crew w surroundings) = Shift.waiting (w.settings.frequency.getD 0)
      (w.settings.maxTime.getD 0) [] (stops w calls) surroundings := by
  have hready (c : Crew σ) : signalled w calls c =
      { c with ready := c.ready ++ (stops w calls).map fun x => Shift.stopStrand x.1 x.2 } := by
    induction calls generalizing c with
    | nil => simp [signalled, stops]
    | cons call calls ih =>
      rw [signalled, List.foldl_cons]
      refine (ih _).trans ?_
      simp [signal, stops]
  rw [hready]
  rfl

theorem runs_serve (w : Worker) (calls : List (Nat × Nat)) (o : Outside σ)
    (fuel : Nat) (surroundings : σ) :
    ∃ log, Runs w calls log (serve w o fuel (signalled w calls (crew w surroundings))).state
      (serve w o fuel (signalled w calls (crew w surroundings))).strands := by
  rw [signalled_crew]
  exact Shift.runs_serve w.console (Cycle.routine w) [] _ _ (stops w calls) o fuel surroundings

theorem Runs.sound (h : Runs w calls log s xs) :
    Shift.Sound (Cycle.routine w) [] (w.settings.frequency.getD 0) log s xs :=
  Shift.sound (Cycle.routine_honest w) h

theorem Runs.begun (h : Runs w calls log s xs) (hn : n ∈ Cycle.numbers s.work) :
    n ∈ Shift.begunIn log := by
  have hopened : n ∈ Shift.openedIn log := by
    rw [← (Cycle.sound h.sound.routine).numbers]
    exact hn
  exact Multiset.mem_of_le (h.sound.opened ▸ Multiset.le_add_right _ _) hopened

theorem Runs.course (h : Runs w calls log s xs) (hn : n ∈ Cycle.numbers s.work)
    (k : Coordinator.Kind) :
    Half.Course w k (logOf n k log) ((Cycle.find s.work n).half k) (strandsOf n k xs) := by
  have hcycles := Cycle.sound h.sound.routine
  refine hcycles.half n ?_ k
  rw [← hcycles.numbers]
  exact hn

theorem Runs.once (h : Runs w calls log s xs) (n : Nat) (k : Coordinator.Kind) :
    Half.Once w k (logOf n k log) := by
  have hcycles := Cycle.sound h.sound.routine
  by_cases hn : n ∈ Cycle.numbers s.work
  · exact (h.course hn k).once
  · have hnone : logOf n k log = [] := by
      refine Cycle.logOf_eq_nil fun x hx hxn => hn ?_
      have hmem := hcycles.told x hx
      rw [hxn, ← hcycles.numbers] at hmem
      exact hmem
    rw [hnone]
    exact fun raws hraws => absurd hraws (List.cons_ne_nil _ _).symm

theorem Runs.settled (h : Runs w calls log s xs) (hresults : s.results ≠ [])
    (hn : n ∈ Shift.begunIn log) {k : Coordinator.Kind}
    (hother : ∀ j ≠ k, ∀ f, Half.fetchedIn (logOf n j log) ≠ [.error f]) :
    Half.Settled w k (logOf n k log) (strandsOf n k xs) := by
  obtain ⟨-, -, -, -, htold, hopenings, -⟩ := h.sound.returned (Cycle.routine_honest w) hresults
  -- that a run has returned is known of the ends that were told, which the halves speak of
  have htold : n ∈ Shift.toldIn log := by
    rw [htold, ← add_zero (Shift.openedIn log), ← hopenings, h.sound.opened]
    exact hn
  exact (Cycle.sound h.sound.routine).settles htold hother

/-- No run of a worker takes a job twice. When it returns, each half of each cycle has come to its
end, with all jobs that it fetched, unless the fetch of the other half has failed. -/
theorem serve_settles (w : Worker) (calls : List (Nat × Nat)) :
    (∀ log s xs, Runs w calls log s xs → ∀ n ∈ Shift.begunIn log, ∀ k,
      Half.Once w k (logOf n k log) ∧
      (s.results ≠ [] → (∀ j ≠ k, ∀ f, Half.fetchedIn (logOf n j log) ≠ [.error f]) →
        Half.Settled w k (logOf n k log) (strandsOf n k xs))) ∧
    ∀ {σ : Type} (o : Outside σ) (fuel : Nat) (surroundings : σ), ∃ log,
      Runs w calls log (serve w o fuel (signalled w calls (crew w surroundings))).state
        (serve w o fuel (signalled w calls (crew w surroundings))).strands :=
  ⟨fun _ _ _ h n hn k => ⟨h.once n k, fun hresults hother => h.settled hresults hn hother⟩,
    fun o fuel surroundings => runs_serve w calls o fuel surroundings⟩

/-- How many jobs a half of a cycle has and whether they have ended, where its fetch has gone
well. -/
def standing (cs : List Cycle) (n : Nat) (k : Coordinator.Kind) : Option (Nat × Bool) :=
  match (Cycle.find cs n).half k with
  | .working b => some (b.jobs.length, b.finished)
  | .ended (.ok m) => some (m, true)
  | .fetching | .ended (.error _) => none

theorem Runs.fetched {k : Coordinator.Kind} {m : Nat} {all : Bool} (h : Runs w calls log s xs)
    (hn : n ∈ Cycle.numbers s.work) (hstanding : standing s.work n k = some (m, all)) :
    ∃ raws, Half.fetchedIn (logOf n k log) = [.ok raws] ∧ raws.length = m := by
  have hcourse := h.course hn k
  unfold standing at hstanding
  cases hhalf : (Cycle.find s.work n).half k with
  | fetching =>
    rw [hhalf] at hstanding
    cases hstanding
  | working b =>
    rw [hhalf] at hstanding hcourse
    cases hstanding
    exact hcourse.count nofun nofun
  | ended result =>
    rw [hhalf] at hstanding hcourse
    cases result with
    | error f => cases hstanding
    | ok m =>
      cases hstanding
      exact hcourse.count nofun nofun

theorem Runs.untouched {k : Coordinator.Kind} {m : Nat} (h : Runs w calls log s xs)
    (hn : n ∈ Cycle.numbers s.work) (hstanding : standing s.work n k = some (m, false))
    (hcard : (strandsOf n k xs).card = m) : Batch.endedIn (Half.workIn (logOf n k log)) = 0 := by
  have hcourse := h.course hn k
  unfold standing at hstanding
  split at hstanding
  · next b hhalf =>
    rw [hhalf] at hcourse
    obtain ⟨rfl, hgoes⟩ : b.jobs.length = m ∧ b.finished = false := by simpa using hstanding
    exact hcourse.untouched hgoes hcard
  all_goals simp at hstanding

def oneShot : Worker where
  settings := { secret := "secret", key := "key", baseUrl := "https://coordinator.test" }
  console := {}
  equipment := equipment []

def requests : String :=
  "\x7b\"requests\":[\x7b\"id\":\"a\",\"request\":\x7b\"url\":\"https://api.test/x\"\x7d\x7d]\x7d"

def oneRequest : List Rehearsal.Rule := [
  { path := some "/api/location/request", answer := .response 200 [] (Text.utf8Bytes requests) },
  { host := some "api.test", delay := 102400, answer := Rehearsal.otherwise }]

def served (rules : List Rehearsal.Rule) : Crew Rehearsal :=
  serve oneShot Rehearsal.outside 60 (signalled oneShot [] (crew oneShot { script := { rules } }))

theorem served_ends : (served oneRequest).state.results = [1] ∧
    Cycle.numbers (served oneRequest).state.work = [1] ∧
    standing (served oneRequest).state.work 1 .requests = some (1, true) ∧
    standing (served oneRequest).state.work 1 .tests = some (0, true) := by
  decide +kernel

theorem serve_settles_oneRequest :
    ∃ log raw, Runs oneShot [] log (served oneRequest).state (served oneRequest).strands ∧
      (served oneRequest).state.results = [1] ∧
      Half.Complete oneShot .requests (logOf 1 .requests log) [raw] ∧
      strandsOf 1 .requests (served oneRequest).strands = 0 := by
  obtain ⟨hsafe, hruns⟩ := serve_settles oneShot []
  obtain ⟨log, hlog⟩ := hruns Rehearsal.outside 60 { script := { rules := oneRequest } }
  have hlog : Runs oneShot [] log (served oneRequest).state (served oneRequest).strands := hlog
  obtain ⟨hresults, hnumbers, hrequests, htests⟩ := served_ends
  have hone : 1 ∈ Cycle.numbers (served oneRequest).state.work := by simp [hnumbers]
  -- which jobs came is not in the state any more, but their number is, and that no fetch failed
  obtain ⟨raws, hfetched, hlength⟩ := hlog.fetched hone hrequests
  obtain ⟨none, hother, -⟩ := hlog.fetched hone htests
  obtain ⟨raw, rfl⟩ := List.length_eq_one_iff.1 hlength
  have hsibling : ∀ j ≠ Coordinator.Kind.requests, ∀ f,
      Half.fetchedIn (logOf 1 j log) ≠ [.error f] := by
    intro j hj f
    cases j with
    | requests => exact absurd rfl hj
    | tests => simp [hother]
  obtain ⟨-, hsettled⟩ := hsafe log _ _ hlog 1 (hlog.begun hone) .requests
  obtain ⟨hend, hnothing⟩ := hsettled (by simp [hresults]) hsibling
  obtain ⟨raws, hcomplete⟩ | ⟨f, hfailed⟩ := hend
  · obtain rfl : raws = [raw] := by simpa [hfetched] using hcomplete.fetched.symm
    exact ⟨log, raw, hlog, hresults, hcomplete, hnothing⟩
  · simp [hfetched] at hfailed

/-- The fetch of the tests is answered, while the request runs, with a redirect to what is no
address. -/
def badRedirect : Rehearsal.Rule where
  path := some "/api/location/execution"
  delay := 5120
  answer := .response 302 [("location", "http:foo")] []

theorem served_returns : (served (badRedirect :: oneRequest)).state.results = [1] ∧
    Cycle.numbers (served (badRedirect :: oneRequest)).state.work = [1] ∧
    standing (served (badRedirect :: oneRequest)).state.work 1 .requests = some (1, false) ∧
    (strandsOf 1 .requests (served (badRedirect :: oneRequest)).strands).card = 1 := by
  decide +kernel

/-- The run returns, and the request that was fetched has not come to its end. -/
theorem serve_abandons :
    ∃ log raw, Runs oneShot [] log (served (badRedirect :: oneRequest)).state
        (served (badRedirect :: oneRequest)).strands ∧
      (served (badRedirect :: oneRequest)).state.results = [1] ∧ 1 ∈ Shift.begunIn log ∧
      Half.fetchedIn (logOf 1 .requests log) = [.ok [raw]] ∧
      Batch.endedIn (Half.workIn (logOf 1 .requests log)) = 0 ∧
      (strandsOf 1 .requests (served (badRedirect :: oneRequest)).strands).card = 1 := by
  obtain ⟨hresults, hnumbers, hstanding, hcard⟩ := served_returns
  obtain ⟨log, hlog⟩ :=
    runs_serve oneShot [] Rehearsal.outside 60 { script := { rules := badRedirect :: oneRequest } }
  have hlog : Runs oneShot [] log (served (badRedirect :: oneRequest)).state
    (served (badRedirect :: oneRequest)).strands := hlog
  have hone : 1 ∈ Cycle.numbers (served (badRedirect :: oneRequest)).state.work := by
    simp [hnumbers]
  obtain ⟨raws, hfetched, hlength⟩ := hlog.fetched hone hstanding
  obtain ⟨raw, rfl⟩ := List.length_eq_one_iff.1 hlength
  exact ⟨log, raw, hlog, hresults, hlog.begun hone, hfetched,
    hlog.untouched hone hstanding hcard, hcard⟩

end TestWorker.Agent
