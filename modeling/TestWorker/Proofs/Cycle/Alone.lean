import TestWorker.Cycle
import TestWorker.Proofs.Batch.Reach
import TestWorker.Proofs.Coordinator.Answer

namespace TestWorker.Cycle
variable {w : Worker} {k : Coordinator.Kind} {σ : Type} {V : σ → σ → Prop} {o : Outside σ}

/-- A cycle over one kind of jobs. -/
def alone (k : Coordinator.Kind) (h : Half) (outcome : Option (Except Fault Unit)) : Cycle :=
  ⟨1, [(k, h)], outcome⟩

section
variable (k : Coordinator.Kind) (g h : Half) (outcome : Option (Except Fault Unit))

@[simp] theorem find_alone : find [alone k h outcome] 1 = alone k h outcome := rfl

@[simp] theorem half_alone : (alone k h outcome).half k = h := by simp [half, alone]

@[simp] theorem setHalf_alone : (alone k h outcome).setHalf k g = alone k g outcome := by
  simp [setHalf, alone]

@[simp] theorem outcome_alone : (alone k h outcome).outcome = outcome := rfl

@[simp] theorem put_alone : put [alone k h outcome] (alone k g outcome) = [alone k g outcome] := rfl

end

def liftAlarm (n : Nat) (k : Coordinator.Kind) (a : Alarm Batch.Tag.Result) : Alarm Tag.Result :=
  ⟨a.due, lift n k a.strand⟩

theorem schedule_lift (n : Nat) (k : Coordinator.Kind) (a : Alarm Batch.Tag.Result)
    (as : List (Alarm Batch.Tag.Result)) :
    Crew.schedule (liftAlarm n k a) (as.map (liftAlarm n k)) =
      (Crew.schedule a as).map (liftAlarm n k) := by
  induction as with
  | nil => rfl
  | cons b as ih =>
    rw [List.map_cons, Crew.schedule, Crew.schedule, ih, apply_ite (List.map (liftAlarm n k))]
    rfl

def tallying (k : Coordinator.Kind) (b : Batch) : List (Strand Tag.Result) :=
  if b.finished then [⟨.tally 1 k, .done ()⟩] else []

def housing (k : Coordinator.Kind) (c : Crew Batch.Tag.Result Batch σ) :
    Crew Tag.Result (List Cycle) σ where
  now := c.now
  ready := c.ready.map (lift 1 k) ++ tallying k c.state
  alarms := c.alarms.map (liftAlarm 1 k)
  state := [alone k (.working c.state) none]
  surroundings := c.surroundings

theorem plan_work (now : Instant) (t : Batch.Tag) (r : t.Result) (b : Batch) :
    plan w now (.work 1 k t) r [alone k (.working b) none] =
      { state := [alone k (.working (Batch.plan now t r b).state) none]
        first := (Batch.plan now t r b).first.map (lift 1 k)
        later := (Batch.plan now t r b).later.map (lift 1 k) ++
          tallying k (Batch.plan now t r b).state } := by
  simp [plan, react, tallying]

theorem wake_housing {c : Crew Batch.Tag.Result Batch σ} (hgoes : c.state.finished = false)
    (halarms : c.alarms ≠ []) : (housing k c).wake = housing k c.wake := by
  obtain ⟨a, as, has⟩ := List.exists_cons_of_ne_nil halarms
  have has' : (housing k c).alarms = liftAlarm 1 k a :: as.map (liftAlarm 1 k) :=
    congrArg (List.map _) has
  rw [Crew.wake_of_cons has', Crew.wake_of_cons has]
  simp only [housing, tallying, hgoes, List.takeWhile_map, List.dropWhile_map, List.map_map]
  simp only [Bool.false_eq_true, if_false, List.append_nil]
  rfl

/-- Each turn of a batch is one of the cycle that it belongs to. -/
theorem housing_step {c d : Crew Batch.Tag.Result Batch σ}
    (h : Crew.Step Batch.plan o Batch.finished c d) :
    Crew.Step (plan w) o settled (housing k c) (housing k d) := by
  obtain ⟨hgoes, hturn⟩ := h
  -- as long as a job has not ended, the cycle's strands are those of the batch
  have hnone : tallying k c.state = [] := by simp [tallying, hgoes]
  refine ⟨rfl, ?_⟩
  obtain ⟨now, ready, alarms, b, left⟩ := c
  cases ready with
  | nil =>
    have halarms : alarms ≠ [] := by
      rintro rfl
      cases hturn
    rw [Crew.turn_of_idle rfl halarms] at hturn
    cases hturn
    rw [← wake_housing hgoes halarms]
    exact Crew.turn_of_idle hnone (by simpa [housing] using halarms)
  | cons x ready =>
    have hready : (housing k ⟨now, x :: ready, alarms, b, left⟩).ready =
        lift 1 k x :: ready.map (lift 1 k) := by
      simp [housing, hnone]
    cases hadvance : x.rest.advance o now left with
    | mk stage after =>
      cases stage with
      | ended r =>
        rw [Crew.turn_of_ended rfl hadvance rfl] at hturn
        cases hturn
        rw [Crew.turn_of_ended hready hadvance (plan_work _ _ _ _)]
        simp [housing]
      | waiting delay rest =>
        rw [Crew.turn_of_waiting rfl hadvance] at hturn
        cases hturn
        rw [Crew.turn_of_waiting hready hadvance]
        simp [housing, hnone, ← schedule_lift]
        rfl

def printed (now : Instant) (lines : List Line) : List (Instant × Effect) :=
  if lines.isEmpty then [] else [(now, .print lines)]

theorem advance_print (ho : o.Deaf V) (lines : List Line) (now : Instant)
    (s : σ × List (Instant × Effect)) :
    ∃ u, (Activity.print lines).advance o.recording now s =
      (.ended (), u, s.2 ++ printed now lines) := by
  unfold Activity.print printed
  cases lines with
  | nil => exact ⟨s.1, by simp [Activity.advance]⟩
  | cons line lines => exact ⟨_, if_pos (ho.prompt (line :: lines) now s.1)⟩

def closing (k : Coordinator.Kind) (count : Nat) (now : Instant) (surroundings : σ) :
    Crew Tag.Result (List Cycle) σ where
  now := now
  ready := [⟨.close 1, .done ()⟩]
  state := [alone k (.ended (.ok count)) (some (.ok ()))]
  surroundings := surroundings

theorem settle_step (count : Nat) (now : Instant) (s : σ) :
    Crew.Step (plan w) o settled
      ⟨now, [⟨.settle 1 k, .done ()⟩], [], [alone k (.ended (.ok count)) none], s⟩
      (closing k count now s) := by
  refine ⟨rfl, ?_⟩
  rw [Crew.turn_of_done rfl rfl]
  simp [plan, react, closing, Half.outcome]
  rfl

def summary (w : Worker) (k : Coordinator.Kind) (now : Instant) (count : Nat) :
    List (Instant × Effect) :=
  if count = 0 then [] else printed now (w.console.batchExecuted k.plural count)

/-- A batch whose jobs have all ended leads to the end of the cycle. -/
theorem housing_ends (ho : o.Deaf V) {c : Crew Batch.Tag.Result Batch (σ × List (Instant × Effect))}
    (hready : c.ready = []) (halarms : c.alarms = []) (hfinished : c.state.finished = true) :
    ∃ u, Crew.Steps (plan w) o.recording settled (housing k c) (closing k c.state.jobs.length c.now
      (u, c.surroundings.2 ++
        printed c.now (w.console.batchExecuted k.plural c.state.jobs.length))) := by
  obtain ⟨now, _, _, b, s⟩ := c
  cases hready
  cases halarms
  obtain ⟨u, hu⟩ := advance_print ho (w.console.batchExecuted k.plural b.jobs.length) now s
  have hhoused : housing k ⟨now, [], [], b, s⟩ =
      ⟨now, [⟨.tally 1 k, .done ()⟩], [], [alone k (.working b) none], s⟩ := by
    simp [housing, tallying, show b.finished = true from hfinished]
  rw [hhoused]
  have htally : Crew.Step (plan w) o.recording settled
      ⟨now, [⟨.tally 1 k, .done ()⟩], [], [alone k (.working b) none], s⟩
      ⟨now, [⟨.conclude 1 k, Activity.print (w.console.batchExecuted k.plural b.jobs.length)⟩], [],
        [alone k (.working b) none], s⟩ := by
    refine ⟨rfl, ?_⟩
    rw [Crew.turn_of_done rfl rfl]
    simp [plan, react, Half.count]
  have hconclude : Crew.Step (plan w) o.recording settled
      ⟨now, [⟨.conclude 1 k, Activity.print (w.console.batchExecuted k.plural b.jobs.length)⟩], [],
        [alone k (.working b) none], s⟩
      ⟨now, [⟨.settle 1 k, .done ()⟩], [], [alone k (.ended (.ok b.jobs.length)) none],
        u, s.2 ++ printed now (w.console.batchExecuted k.plural b.jobs.length)⟩ := by
    refine ⟨rfl, ?_⟩
    rw [Crew.turn_of_ended rfl hu rfl]
    simp [plan, react, endHalf, Half.count]
    rfl
  exact ⟨u, .head htally (.head hconclude (.single (settle_step _ _ _)))⟩

def asks (w : Worker) (k : Coordinator.Kind) : Activity (Except Fault Value) := do
  Activity.print (w.console.fetching k.plural
    (w.settings.url (k.path ++ "?amount=" ++ toString w.settings.batchSize)))
  (Coordinator.call w.settings "GET" k.path
    (.replaced (.object [("amount", .int w.settings.batchSize)]))
    .absent).outcome

theorem native_of_asks {now later : Instant} {s t : σ} {answer : Value}
    (h : (asks w k).run o now s = (.ok answer, later, t)) : Json.Native answer := by
  unfold asks at h
  rw [Coordinator.call_outcome, ← Activity.bind_assoc, Activity.run_bind, Activity.run_done] at h
  have hanswered := (Prod.mk.inj h).1
  unfold Coordinator.answered at hanswered
  split at hanswered
  · exact (Coordinator.read_eq_ok_iff.1 hanswered).2.native
  · cases hanswered
  · cases hanswered

theorem run_fetch {now later : Instant} {s t : σ} {answer : Value}
    {raws : List Value} (h : (asks w k).run o now s = (.ok answer, later, t))
    (hraws : Coordinator.Lists k answer raws) :
    (fetch w k).run o now s = (.ok raws, later, t) := by
  have hjobs : k.jobs answer = .ok raws :=
    (Coordinator.jobs_eq_ok_iff_lists (native_of_asks h)).2 hraws
  unfold asks at h
  rw [Activity.run_bind] at h
  unfold fetch Coordinator.fetch
  rw [Activity.run_bind, Activity.run_bind, Attempt.outcome_bind, Activity.run_bind, h]
  simp [hjobs]

theorem steps_fetch_nil {now : Instant} {s t : σ} (h : (fetch w k).run o 0 s = (.ok [], now, t)) :
    Crew.Steps (plan w) o settled (crew [k] w s) (closing k 0 now t) := by
  have hnone : plan w now (.fetch 1 k) (.ok []) [alone k .fetching none] =
      { state := [alone k (.ended (.ok 0)) none], later := [⟨.settle 1 k, .done ()⟩] } := by
    simp [plan, react, endHalf]
    rfl
  exact (Crew.steps_alone rfl h hnone).tail (settle_step 0 now t)

theorem steps_fetch_cons {raw : Value} {raws : List Value} {now : Instant}
    {s t : σ} (h : (fetch w k).run o 0 s = (.ok (raw :: raws), now, t)) :
    Crew.Steps (plan w) o settled (crew [k] w s) (housing k
      (Batch.opened ((raw :: raws).map (job w k))
        (w.settings.concurrency.filter (0 < ·)) now t)) := by
  have hbatch : plan w now (.fetch 1 k) (.ok (raw :: raws)) [alone k .fetching none] =
      { state := [alone k (.working (batch w k (raw :: raws))) none]
        later := (batch w k (raw :: raws)).opening.map (lift 1 k) } := by
    simp [plan, react]
  have hsteps : Crew.Steps (plan w) o settled (crew [k] w s) _ :=
    Crew.steps_alone (p := plan w) (t := .fetch 1 k) (s := [alone k .fetching none]) rfl h hbatch
  rw [List.nil_append, ← List.append_nil (List.map _ _)] at hsteps
  exact hsteps

theorem pos_of_concurrency (n : Nat) (h : w.settings.concurrency.filter (0 < ·) = some n) : 0 < n :=
  of_decide_eq_true (Option.filter_eq_some_iff.1 h).2

/-- A cycle over one kind of jobs goes on with its batch to its end. -/
theorem runOnce_of_steps (ho : o.Deaf V) {raws : List Value}
    {now : Instant} {s t : σ × List (Instant × Effect)}
    (hfetch : (fetch w k).run o.recording 0 s = (.ok raws, now, t))
    {c : Crew Batch.Tag.Result Batch (σ × List (Instant × Effect))}
    (hsteps : Crew.Steps Batch.plan o.recording Batch.finished
      (Batch.opened (raws.map (job w k)) (w.settings.concurrency.filter (0 < ·)) now t) c)
    (hreached : Batch.Reached (raws.map (job w k)) (w.settings.concurrency.filter (0 < ·)) c)
    (hfinished : c.state.finished = true) :
    ∃ u n, ∀ fuel, n ≤ fuel → runOnce [k] w o.recording fuel s =
      closing k raws.length c.now (u, c.surroundings.2 ++ summary w k c.now raws.length) := by
  cases raws with
  -- nothing is worked on where nothing is fetched, and a batch of no jobs takes no turn
  | nil =>
    obtain rfl | ⟨d, hstep, -⟩ := hsteps.cases_head
    · obtain ⟨n, hn⟩ := Crew.runUntil_of_steps (steps_fetch_nil hfetch) (.inl rfl)
      refine ⟨t.1, n, fun fuel hfuel => (hn fuel hfuel).trans ?_⟩
      simp [summary, Batch.opened]
    · cases hstep.1
  | cons raw raws =>
    obtain ⟨hready, halarms⟩ :=
      Crew.strands_eq_zero.1 ((hreached.finished_iff pos_of_concurrency).1 hfinished)
    have hlength : c.state.jobs.length = (raw :: raws).length := by
      rw [hreached.same, List.length_map]
    obtain ⟨u, hends⟩ := housing_ends (w := w) (k := k) ho hready halarms hfinished
    rw [hlength] at hends
    have hwork := hsteps.lift (housing k) fun _ _ => housing_step (w := w) (k := k)
    obtain ⟨n, hn⟩ :=
      Crew.runUntil_of_steps ((steps_fetch_cons hfetch).trans (hwork.trans hends)) (.inl rfl)
    exact ⟨u, n, hn⟩

end TestWorker.Cycle
