import TestWorker.Proofs.Batch.Insertion
import TestWorker.Proofs.Cycle.Alone

namespace TestWorker

namespace Worker

def vet (k : Coordinator.Kind) (raw : Value) : Except Fault Unit :=
  match k with
  | .requests => (wired "RequestJob" (Wire.RequestJob.read raw)).map fun _ => ()
  | .tests => (wired "TestJob" (Wire.TestJob.read raw)).map fun _ => ()

theorem error_of_map {α : Type} {x : Except Fault α} {f : Fault}
    (h : (x.map fun _ => ()) = .error f) : x = .error f := by
  cases x with
  | ok a => cases h
  | error e =>
    cases h
    rfl

variable {w : Worker} {k : Coordinator.Kind} {raw : Value} {f : Fault}

theorem execute_of_error (h : vet k raw = .error f) :
    (w.execute k raw).outcome = .done (.error f) := by
  unfold execute
  cases k with
  | requests =>
    rw [Attempt.outcome_bind, Attempt.outcome_ofExcept, error_of_map h]
    rfl
  | tests =>
    rw [Attempt.outcome_bind, Attempt.outcome_ofExcept, error_of_map h]
    rfl

end Worker

namespace Cycle
variable {w : Worker} {k : Coordinator.Kind} {σ : Type} {V : σ → σ → Prop} {o : Outside σ}

theorem job_of_error {raw : Value} {f : Fault} (h : Worker.vet k raw = .error f) :
    job w k raw = Batch.refused (Worker.jobFailure w.console (Worker.jobName raw) f) := by
  unfold job Worker.isolated
  rw [Worker.execute_of_error h]
  rfl

def tale (w : Worker) (k : Coordinator.Kind) (raw : Value) : List Line :=
  match Worker.vet k raw with
  | .ok _ => []
  | .error f => Worker.jobFailure w.console (Worker.jobName raw) f

theorem tale_of_error {raw : Value} {f : Fault} (h : Worker.vet k raw = .error f) :
    tale w k raw = Worker.jobFailure w.console (Worker.jobName raw) f := by
  rw [tale, h]

/-- That an entry is no job is told of, and why. -/
def Tells (w : Worker) (k : Coordinator.Kind) (raw : Value) (x : Instant × Effect) : Prop :=
  ∃ f, Worker.vet k raw = .error f ∧
    x.2 = .print (Worker.jobFailure w.console (Worker.jobName raw) f)

theorem tells_of_map {bad : List Value} (hbad : ∀ raw ∈ bad, ∃ f, Worker.vet k raw = .error f)
    {failures : List (Instant × Effect)}
    (h : failures.map Prod.snd = bad.map fun raw => .print (tale w k raw)) :
    List.Forall₂ (Tells w k) bad failures := by
  induction bad generalizing failures with
  | nil =>
    obtain rfl := List.map_eq_nil_iff.1 h
    exact .nil
  | cons raw bad ih =>
    obtain ⟨x, failures, rfl, hx, hfailures⟩ := List.map_eq_cons_iff.1 h
    obtain ⟨⟨f, hf⟩, hbad⟩ := List.forall_mem_cons.1 hbad
    refine .cons ⟨f, hf, ?_⟩ (ih hbad hfailures)
    exact hx.trans (congrArg Effect.print (tale_of_error hf))

/-- A cycle over one kind of jobs beside one that fetched some entries less, all of which are no
jobs: both ended well and at the same time. Since their fetches, which left `past` and `past'`, they
asked for the same at the same times, but that the one told of each of these entries as of a failed
job, and counted them in the end. -/
structure AsWithout {σ : Type} (w : Worker) (k : Coordinator.Kind)
    (all raws bad : List Value) (past past' : List (Instant × Effect))
    (c c' : Crew Tag.Result (List Cycle) (σ × List (Instant × Effect))) : Prop where
  ended : c.state = [alone k (.ended (.ok all.length)) (some (.ok ()))]
  ended' : c'.state = [alone k (.ended (.ok raws.length)) (some (.ok ()))]
  more : all.length = raws.length + bad.length
  now : c.now = c'.now
  log : ∃ work work' failures, c.surroundings.2 = past ++ work ++ summary w k c.now all.length ∧
    c'.surroundings.2 = past' ++ work' ++ summary w k c'.now raws.length ∧
      Interleaves work' failures work ∧ List.Forall₂ (Tells w k) bad failures ∧
      sentIn work = sentIn work'

/-- Entries that are no jobs, put in anywhere among those that a coordinator lists, change nothing
for the others, as long as the coordinator and the targets answer the same. -/
theorem runOnce_insertion (ho : o.Deaf V) (w : Worker) (k : Coordinator.Kind)
    {raws bad all : List Value} (hall : Interleaves raws bad all)
    (hbad : ∀ raw ∈ bad, ∃ f, Worker.vet k raw = .error f) {answer answer' : Value}
    (hlists : Coordinator.Lists k answer all) (hlists' : Coordinator.Lists k answer' raws)
    {s s' u u' : σ} {now : Instant} {past past' : List (Instant × Effect)}
    (hasks : (asks w k).run o.recording 0 (s, []) = (.ok answer, now, u, past))
    (hasks' : (asks w k).run o.recording 0 (s', []) = (.ok answer', now, u', past'))
    (hworld : V u u') :
    ∃ n, ∀ fuel, n ≤ fuel →
      AsWithout w k all raws bad past past' (runOnce [k] w o.recording fuel (s, []))
      (runOnce [k] w o.recording fuel (s', [])) := by
  have hrefused : ∀ raw ∈ bad, job w k raw = Batch.refused (tale w k raw) := by
    intro raw hraw
    obtain ⟨f, hf⟩ := hbad raw hraw
    rw [job_of_error hf, tale_of_error hf]
  obtain ⟨b, c, hb, hc, ⟨hreached, hfinished⟩, ⟨hreached', hfinished'⟩, hnow, -, work, work',
      failures, hwork, hwork', hwoven, hfailures⟩ :=
    Batch.ends_with_guests ho pos_of_concurrency hall (job w k) (tale w k) hrefused
      hworld now past past'
  obtain ⟨v, n, hn⟩ := runOnce_of_steps ho (run_fetch hasks hlists) hb hreached hfinished
  obtain ⟨v', n', hn'⟩ := runOnce_of_steps ho (run_fetch hasks' hlists') hc hreached' hfinished'
  -- all that is recorded besides is printed, so what is sent is the same
  have hsent : sentIn work = sentIn work' := hwoven.filterMap_eq fun x hx => by
    have hmem : x.2 ∈ failures.map Prod.snd := List.mem_map_of_mem hx
    rw [hfailures] at hmem
    obtain ⟨raw, -, hprint⟩ := List.mem_map.1 hmem
    rw [← hprint]
  refine ⟨max n n', fun fuel hfuel => ?_⟩
  rw [hn fuel (by omega), hn' fuel (by omega), hwork, hwork']
  exact ⟨rfl, rfl, hall.length, hnow, work, work', failures,
    rfl, rfl, hwoven, tells_of_map hbad hfailures, hsent⟩

def replying : Outside (List Web.Response) := fun effect now responses =>
  match effect with
  | .clock => ⟨now, 0, responses⟩
  | .exchange _ =>
    match responses with
    | [] => ⟨.error (.transport "ConnectError" "refused"), 640, []⟩
    | r :: rest => ⟨.ok r, 640, rest⟩
  | .cookies _ => ⟨[], 0, responses⟩
  | .step _ => ⟨.ok (), 0, responses⟩
  | .query _ => ⟨.ok {}, 0, responses⟩
  | .draw d => ⟨d.sample, 0, responses⟩
  | .print _ | .remember .. => ⟨(), 0, responses⟩
  | .pause d => ⟨(), d, responses⟩

theorem replying_deaf : replying.Deaf Eq where
  same _ _ h := h ▸ ⟨rfl, rfl, rfl⟩
  prompt _ _ _ := rfl
  unheard _ _ h := h

def patient : Worker :=
  ⟨{ Coordinator.somewhere with concurrency := some 1 }, {}, ⟨⟨none, false⟩, []⟩⟩

def asked (text : String) :
    Except Fault Value × Instant × List Web.Response × List (Instant × Effect) :=
  (asks patient .requests).run replying.recording 0 ([⟨200, [], Text.utf8Bytes text⟩], [])

def oneJob : Value := .object [("id", .text "a")]

def oneText : String := "\x7b\"requests\":[\x7b\"id\":\"a\"\x7d]\x7d"

def threeText : String := "\x7b\"requests\":[1,\x7b\"id\":\"a\"\x7d,null]\x7d"

theorem matches_oneText : (((asked oneText).1 >>= Coordinator.Kind.requests.jobs) matches
      .ok [.object [("id", .text "a")]]) ∧
    (asked oneText).2.1 = 640 ∧ (asked oneText).2.2.1.isEmpty = true := by
  decide +kernel

theorem matches_threeText : (((asked threeText).1 >>= Coordinator.Kind.requests.jobs) matches
      .ok [.int 1, .object [("id", .text "a")], .null]) ∧
    (asked threeText).2.1 = 640 ∧ (asked threeText).2.2.1.isEmpty = true := by
  decide +kernel

theorem asked_oneText : (asked oneText).1 >>= Coordinator.Kind.requests.jobs = .ok [oneJob] ∧
    (asked oneText).2.1 = 640 ∧ (asked oneText).2.2.1.isEmpty = true := by
  obtain ⟨hjobs, hrest⟩ := matches_oneText
  split at hjobs
  · next h => exact ⟨h, hrest⟩
  · cases hjobs

theorem asked_threeText :
    (asked threeText).1 >>= Coordinator.Kind.requests.jobs = .ok [.int 1, oneJob, .null] ∧
    (asked threeText).2.1 = 640 ∧ (asked threeText).2.2.1.isEmpty = true := by
  obtain ⟨hjobs, hrest⟩ := matches_threeText
  split at hjobs
  · next h => exact ⟨h, hrest⟩
  · cases hjobs

theorem lists_of_asked {text : String} {raws : List Value} {now : Instant}
    (h : (asked text).1 >>= Coordinator.Kind.requests.jobs = .ok raws ∧
      (asked text).2.1 = now ∧ (asked text).2.2.1.isEmpty = true) :
    ∃ answer, Coordinator.Lists .requests answer raws ∧
      asked text = (.ok answer, now, [], (asked text).2.2.2) := by
  obtain ⟨hraws, hnow, hnone⟩ := h
  obtain ⟨answer, hanswer, hjobs⟩ := Except.bind_eq_ok.1 hraws
  have hasked : asked text = (.ok answer, now, [], (asked text).2.2.2) :=
    Prod.ext hanswer (Prod.ext hnow (Prod.ext (List.isEmpty_iff.1 hnone) rfl))
  exact ⟨answer, (Coordinator.jobs_eq_ok_iff_lists (native_of_asks hasked)).1 hjobs, hasked⟩

theorem runOnce_insertion_threeText : ∃ n, ∀ fuel, n ≤ fuel →
    AsWithout patient .requests [.int 1, oneJob, .null] [oneJob] [.int 1, .null]
      (asked threeText).2.2.2 (asked oneText).2.2.2
      (runOnce [.requests] patient replying.recording fuel
        ([⟨200, [], Text.utf8Bytes threeText⟩], []))
      (runOnce [.requests] patient replying.recording fuel
        ([⟨200, [], Text.utf8Bytes oneText⟩], [])) := by
  have hall : Interleaves [oneJob] [.int 1, .null] [.int 1, oneJob, .null] :=
    ((Interleaves.nil.right (Value.int 1)).left oneJob).right Value.null
  have hbad : ∀ raw ∈ [Value.int 1, .null], ∃ f, Worker.vet .requests raw = .error f :=
    List.forall_mem_cons.2 ⟨⟨_, rfl⟩, List.forall_mem_singleton.2 ⟨_, rfl⟩⟩
  obtain ⟨answer, hlists, hasks⟩ := lists_of_asked asked_threeText
  obtain ⟨answer', hlists', hasks'⟩ := lists_of_asked asked_oneText
  exact runOnce_insertion replying_deaf patient .requests hall hbad hlists hlists' hasks hasks' rfl

end Cycle
end TestWorker
