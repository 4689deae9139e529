import TestWorker.Proofs.Agent
import TestWorker.Proofs.Cycle.Jobs
import TestWorker.Proofs.Job.Apart

namespace TestWorker.Agent

abbrev Log :=
  List (Ending (Shift.Tag.Result Cycle.Tag.Result) × Story (Shift.Tag.Result Cycle.Tag.Result))

variable {σ : Type} {w : Worker} {calls calls' : List (Nat × Nat)}
  {k : Coordinator.Kind} {raw : Value}
  {log log' : Log} {s s' : Shift (List Cycle)}
  {xs xs' : Multiset (Story (Shift.Tag.Result Cycle.Tag.Result))}

/-- Runs of a worker, in every order of its strands, with their stories. -/
def Unfolds (w : Worker) (calls : List (Nat × Nat)) (log : Log) (s : Shift (List Cycle))
    (xs : Multiset (Story (Shift.Tag.Result Cycle.Tag.Result))) : Prop :=
  TestWorker.Unfolds (plan w) 0
    (Shift.fresh (w.settings.frequency.getD 0) (w.settings.maxTime.getD 0) [])
    (Shift.opening (stops w calls)) log s xs

theorem unfolds_serve (w : Worker) (calls : List (Nat × Nat))
    (o : Outside σ) (fuel : Nat) (surroundings : σ) :
    ∃ log xs,
      Unfolds w calls log (serve w o fuel (signalled w calls (crew w surroundings))).state xs ∧
      Crew.Heard o log xs := by
  rw [signalled_crew]
  generalize hcrew : Shift.waiting (ρ := Cycle.Tag.Result) (w.settings.frequency.getD 0)
    (w.settings.maxTime.getD 0) ([] : List Cycle) (stops w calls) surroundings = c
  have hstrands : (Shift.ready c).strands = Shift.opening (stops w calls) := by
    rw [← hcrew, Shift.strands_ready]
  have hstart := Crew.unfolded_start (p := plan w) (c := Shift.ready c) (by subst hcrew; rfl)
  obtain ⟨log, xs, hunfolded, hheard⟩ := hstart.runUntil_heard (o := o)
    (fun s => decide (c.state.results.length + 1 ≤ s.results.length)) fuel
  rw [hstrands] at hunfolded hheard
  refine ⟨log, xs, ?_, hheard ⟨List.forall_mem_nil _, fun x hx => ?_⟩⟩
  · subst hcrew
    exact hunfolded.unfolds
  · obtain ⟨y, -, rfl⟩ := Multiset.mem_map.1 hx
    exact List.forall_mem_nil _

/-- The strand is that of a job that has been fetched. -/
def IsJob (w : Worker) (k : Coordinator.Kind) (raw : Value)
    (x : Story (Shift.Tag.Result Cycle.Tag.Result)) : Prop :=
  ∃ n i, x.source = ⟨.inner (.work n k (.job i)), Cycle.job w k raw⟩

/-- Each strand with the tag of a job is that of a job that has been fetched. -/
theorem Unfolds.isJob (h : Unfolds w calls log s xs) : ∀ e ∈ log, ∀ n k i,
    e.2.tag = .inner (.work n k (.job i)) → ∃ raw, IsJob w k raw e.2 := by
  have howns : ∀ e ∈ log, ∀ z, Shift.inner? e.2.source = some z → Cycle.Own w z := by
    refine (h.forall_begun (I := fun s => ∀ c ∈ s.work, Cycle.Faithful w c)
      (P := fun y => ∀ z, Shift.inner? y = some z → Cycle.Own w z)
      (List.forall_mem_nil _) ?_ ?_).2.1
    · intro y hy z hz
      have hmem := (Multiset.mem_filterMap Shift.inner? _).2 ⟨y, hy, hz⟩
      rw [Shift.inner?_opening] at hmem
      exact absurd hmem (Multiset.notMem_zero z)
    · intro now t r s hwork
      rcases Shift.inner_plan w.console (Cycle.routine w) now t r s with
        ⟨hstate, hnone⟩ | ⟨x, hx, hstate, hinner⟩
      · refine ⟨(congrArg (∀ c ∈ ·, Cycle.Faithful w c) hstate).mpr hwork, fun y hy z hz => ?_⟩
        have hmem := (Multiset.mem_filterMap Shift.inner? _).2 ⟨y, hy, hz⟩
        exact absurd (hnone ▸ hmem) (Multiset.notMem_zero z)
      · have hleads : Cycle.Leads w x := by
          rcases hx with ⟨n, rfl⟩ | ⟨t', r', rfl⟩
          · exact Cycle.leads_begin hwork n
          · exact Cycle.leads_react hwork now t' r'
        refine ⟨(congrArg (∀ c ∈ ·, Cycle.Faithful w c) hstate).mpr hleads.1, fun y hy z hz => ?_⟩
        have hmem := (Multiset.mem_filterMap Shift.inner? _).2 ⟨y, hy, hz⟩
        exact hleads.2 z (hinner ▸ hmem)
  intro e he n k i htag
  obtain ⟨d, ⟨tag, began, origin, beats, now, rest, hgoes⟩⟩ := e
  obtain rfl : tag = .inner (.work n k (.job i)) := htag
  obtain ⟨raw, hraw⟩ := howns _ he _ rfl n k i origin rfl
  exact ⟨raw, n, i, by rw [← hraw]; rfl⟩

theorem Unfolds.goes_job (h : Unfolds w calls log s xs) : ∀ e ∈ log, IsJob w k raw e.2 →
    ∃ r, (Cycle.job w k raw).Goes e.2.began e.2.beats e.2.now (.done r) := by
  rintro e he ⟨n, i, hsource⟩
  exact TestWorker.Unfolds.goes h he hsource

/-- Whatever other jobs there are in either run, a job sends the same requests in both, as long as
the targets reply to it by its effects alone and nobody else changes the cookies of its session.
What is posted about it is the same too where the replies take as long. -/
theorem jobs_apart (w : Worker) (hclient : w.equipment.client.session ≠ some .coordinator)
    (reply : (e : Effect) → e.Reply) (delay : Effect → Nat) (jar : Web.Jar) :
    (∀ calls log s xs calls' log' s' xs', Unfolds w calls log s xs → Unfolds w calls' log' s' xs' →
      ∀ k raw, ∀ e ∈ log, ∀ e' ∈ log', IsJob w k raw e.2 → IsJob w k raw e'.2 →
        Apart reply jar (evaluation e.2.beats) → Apart reply jar (evaluation e'.2.beats) →
          requestsOf (evaluation e.2.beats) = requestsOf (evaluation e'.2.beats) ∧
            (Takes delay (evaluation e.2.beats) → Takes delay (evaluation e'.2.beats) →
              posts (reporting e.2.beats) = posts (reporting e'.2.beats))) ∧
    (∀ calls log s xs, Unfolds w calls log s xs → ∀ e ∈ log, ∀ n k i,
      e.2.tag = .inner (.work n k (.job i)) → ∃ raw, IsJob w k raw e.2) ∧
    ∀ {σ : Type} (o : Outside σ) (calls : List (Nat × Nat)) (fuel : Nat)
      (surroundings : σ), ∃ log xs,
      Unfolds w calls log (serve w o fuel (signalled w calls (crew w surroundings))).state xs ∧
        Crew.Heard o log xs := by
  refine ⟨fun _ log s xs _ log' s' xs' h h' k raw e he e' he' hjob hjob' hapart hapart' => ?_,
    fun _ log s xs h => h.isJob,
    fun o calls fuel surroundings => unfolds_serve w calls o fuel surroundings⟩
  obtain ⟨r, hgoes⟩ := h.goes_job e he hjob
  obtain ⟨r', hgoes'⟩ := h'.goes_job e' he' hjob'
  exact job_apart hclient hgoes hgoes' hapart hapart'

/-- The only cycle works on its requests, as many at once as there are, and has not fetched its
tests. -/
def Working (raws : List Value) (s : Shift (List Cycle)) : Prop :=
  ∃ b : Batch, s.work = [⟨1, [(.tests, .fetching), (.requests, .working b)], none⟩] ∧
    b.jobs = raws.map (Cycle.job oneShot .requests) ∧ b.free = none ∧ b.queue = []

def arrival (i : Nat) : Strand (Shift.Tag.Result Cycle.Tag.Result) :=
  Shift.inner (Cycle.lift 1 .requests ⟨.arrival i, .done ()⟩)

def jobStrand (i : Nat) (raw : Value) : Strand (Shift.Tag.Result Cycle.Tag.Result) :=
  Shift.inner (Cycle.lift 1 .requests ⟨.job i, Cycle.job oneShot .requests raw⟩)

def fetchStrand (k : Coordinator.Kind) : Strand (Shift.Tag.Result Cycle.Tag.Result) :=
  Shift.inner ⟨.fetch 1 k, Cycle.fetch oneShot k⟩

theorem working_of_fetch {raws : List Value} (hraws : raws ≠ []) (now : Instant)
    (h : s.work = [⟨1, [(.tests, .fetching), (.requests, .fetching)], none⟩]) :
    (plan oneShot now (fetchStrand .requests).tag (Except.ok raws) s).strands =
        ((List.range raws.length).map arrival : List _) ∧
      Working raws (plan oneShot now (fetchStrand .requests).tag (Except.ok raws) s).state := by
  obtain ⟨schedule, work, results⟩ := s
  cases h
  cases raws with
  | nil => exact absurd rfl hraws
  | cons raw raws =>
    refine ⟨?_, _, rfl, rfl, rfl, rfl⟩
    have hopening : (Cycle.batch oneShot .requests (raw :: raws)).opening =
        (List.range (raws.length + 1)).map fun i => ⟨.arrival i, .done ()⟩ := by
      simp [Batch.opening, Cycle.batch, Batch.create]
    change (0 : Multiset (Strand (Shift.Tag.Result Cycle.Tag.Result))) +
      (((Cycle.batch oneShot .requests (raw :: raws)).opening.map (Cycle.lift 1 .requests)).map
        Shift.inner : List _) = _
    rw [zero_add, hopening, List.map_map, List.map_map]
    rfl

theorem working_of_arrival {raws : List Value} {i : Nat} (now : Instant) (h : Working raws s)
    (hi : raws[i]? = some raw) :
    (∃ ys, (plan oneShot now (arrival i).tag () s).strands = jobStrand i raw ::ₘ ys) ∧
      Working raws (plan oneShot now (arrival i).tag () s).state := by
  obtain ⟨schedule, work, results⟩ := s
  obtain ⟨⟨jobs, standings, free, queue, history⟩, hwork, hjobs, hfree, hqueue⟩ := h
  cases hwork
  cases hfree
  cases hqueue
  have hjob : jobs[i]? = some (Cycle.job oneShot .requests raw) := by
    rw [show jobs = _ from hjobs, List.getElem?_map, hi]
    rfl
  have hstrand : ∀ b : Batch, b.jobs = jobs →
      b.jobStrand i = [⟨.job i, Cycle.job oneShot .requests raw⟩] := by
    intro b hb
    rw [Batch.jobStrand, hb, hjob]
  refine ⟨?_, _, rfl, hjobs, rfl, rfl⟩
  have hfirst : (plan oneShot now (arrival i).tag () ⟨schedule, [⟨1, [(.tests, .fetching),
      (.requests, .working ⟨jobs, standings, none, [], history⟩)], none⟩], results⟩).first =
        [jobStrand i raw] := by
    change ((Batch.jobStrand _ i).map (Cycle.lift 1 .requests)).map Shift.inner = _
    rw [hstrand _ rfl]
    rfl
  rw [Reaction.strands, hfirst]
  exact ⟨_, Multiset.singleton_add _ _⟩

theorem working_of_job {raws : List Value} (now : Instant) (i : Nat) (raw : Value) (r : Bool)
    (h : Working raws s) : Working raws (plan oneShot now (jobStrand i raw).tag r s).state := by
  obtain ⟨schedule, work, results⟩ := s
  obtain ⟨⟨jobs, standings, free, queue, history⟩, hwork, hjobs, hfree, hqueue⟩ := h
  cases hwork
  cases hfree
  cases hqueue
  exact ⟨_, rfl, hjobs, rfl, rfl⟩

theorem exists_working {raws : List Value} (hraws : raws ≠ []) {beats : List Beat} {now : Instant}
    (h : (Cycle.fetch oneShot .requests).Goes 0 beats now (.done (.ok raws))) :
    ∃ log s xs, Unfolds oneShot [] log s
      (((List.range raws.length).map fun i => Story.fresh now (arrival i) : List _) + xs) ∧
        Working raws s := by
  have hrun : Unfolds oneShot [] [] (Shift.fresh 0 0 []) (Story.fresh 0 Shift.runStrand ::ₘ 0) :=
    .start
  obtain ⟨e₁, -, -, h₁⟩ := TestWorker.Unfolds.finish hrun (.stay 0 (.done ()))
  have hopening : Unfolds oneShot [] [e₁] _ (Story.fresh 0 ⟨.opening 1, .done ()⟩ ::ₘ 0) := h₁
  obtain ⟨e₂, -, -, h₂⟩ := TestWorker.Unfolds.finish hopening (.stay 0 (.done ()))
  have hfetches : ∃ s, s.work = [⟨1, [(.tests, .fetching), (.requests, .fetching)], none⟩] ∧
      Unfolds oneShot [] [e₂, e₁] s
        (Story.fresh 0 (fetchStrand .tests) ::ₘ Story.fresh 0 (fetchStrand .requests) ::ₘ 0) :=
    ⟨_, rfl, h₂⟩
  obtain ⟨s, hwork, hfetches⟩ := hfetches
  rw [Multiset.cons_swap] at hfetches
  obtain ⟨e₃, -, -, h₃⟩ := TestWorker.Unfolds.finish hfetches h
  obtain ⟨hstrands, hworking⟩ := working_of_fetch hraws now hwork
  rw [hstrands, Multiset.map_coe, List.map_map] at h₃
  exact ⟨_, _, _, h₃, hworking⟩

theorem exists_ended {raws : List Value} {i : Nat} {t now : Instant}
    {beats : List Beat} {r : Bool} (h : Unfolds oneShot [] log s (Story.fresh t (arrival i) ::ₘ xs))
    (hworking : Working raws s) (hi : raws[i]? = some raw)
    (hgoes : (Cycle.job oneShot .requests raw).Goes t beats now (.done r)) :
    ∃ log' s' xs', ∃ e ∈ log', Unfolds oneShot [] log' s' (xs + xs') ∧ Working raws s' ∧
      (∀ d ∈ log, d ∈ log') ∧ IsJob oneShot .requests raw e.2 ∧ e.2.beats = beats := by
  obtain ⟨e₁, -, -, h₁⟩ := TestWorker.Unfolds.finish h (.stay t (.done ()))
  obtain ⟨⟨ys, hys⟩, hw₁⟩ := working_of_arrival t hworking hi
  rw [hys, Multiset.map_cons, Multiset.cons_add] at h₁
  obtain ⟨e₂, hsource, hbeats, h₂⟩ := TestWorker.Unfolds.finish h₁ hgoes
  rw [← add_assoc, add_comm] at h₂
  refine ⟨_, _, _, e₂, List.mem_cons_self, h₂, working_of_job now i raw r hw₁, fun d hd => ?_,
    ⟨1, i, hsource⟩, hbeats⟩
  exact List.mem_cons_of_mem _ (List.mem_cons_of_mem _ hd)

def jobA : String := "\x7b\"id\":\"a\",\"request\":\x7b\"url\":\"https://api.test/a\"\x7d\x7d"

def jobB : String := "\x7b\"id\":\"b\",\"request\":\x7b\"url\":\"https://api.test/b\"\x7d\x7d"

def valueA : Value :=
  .object [("id", .text "a"), ("request", .object [("url", .text "https://api.test/a")])]

def valueB : Value :=
  .object [("id", .text "b"), ("request", .object [("url", .text "https://api.test/b")])]

def listing (delay : Nat) (jobs : String) : Rehearsal where
  script := { rules := [{
    path := some "/api/location/request"
    delay
    answer := .response 200 [] (Text.utf8Bytes ("\x7b\"requests\":[" ++ jobs ++ "]\x7d")) }] }

def fetched (w : Rehearsal) : Except Fault (List Value) × Instant × Rehearsal :=
  (Cycle.fetch oneShot .requests).run Rehearsal.outside 0 w

theorem fetched_listing :
    ((fetched (listing 0 jobB)).1 matches .ok [.object [("id", .text "b"),
        ("request", .object [("url", .text "https://api.test/b")])]]) ∧
      ((fetched (listing 5120 (jobA ++ "," ++ jobB))).1 matches .ok [.object [("id", .text "a"),
        ("request", .object [("url", .text "https://api.test/a")])], .object [("id", .text "b"),
        ("request", .object [("url", .text "https://api.test/b")])]]) := by
  decide +kernel

theorem eq_of_fetched_listing : (fetched (listing 0 jobB)).1 = .ok [valueB] ∧
    (fetched (listing 5120 (jobA ++ "," ++ jobB))).1 = .ok [valueA, valueB] := by
  obtain ⟨hone, htwo⟩ := fetched_listing
  constructor
  · split at hone
    · next h => exact h
    · cases hone
  · split at htwo
    · next h => exact h
    · cases htwo

def echo : (e : Effect) → e.Reply
  | .clock => (0 : Nat)
  | .exchange r => Web.Response.create 200 [] (Text.utf8Bytes r.url.text)
  | .cookies _ => ([] : Web.Jar)
  | .step _ => .ok ()
  | .query _ => .ok {}
  | .draw d => d.sample
  | .print _ | .remember .. | .pause _ => ()

def echoDelay : Effect → Nat
  | .exchange _ => 1024
  | .pause p => p
  | _ => 0

def echoed (raw : Value) (now : Instant) : List Beat :=
  (Cycle.job oneShot .requests raw).beats (alone echo echoDelay) now []

theorem apart_echoed (raw : Value) (now : Instant) :
    Apart echo [] (evaluation (echoed raw now)) ∧
      Takes echoDelay (evaluation (echoed raw now)) := by
  have hsplit : evaluation (echoed raw now) ++ reporting (echoed raw now) = echoed raw now :=
    List.takeWhile_append_dropWhile
  have hapart : Apart echo [] (echoed raw now) := apart_beats echo echoDelay _ now []
  have htakes : Takes echoDelay (echoed raw now) := takes_beats echo rfl (fun _ => rfl) _ now []
  rw [← hsplit] at hapart htakes
  exact ⟨hapart.of_append, (List.forall_mem_append.1 htakes).1⟩

/-- The second job runs alone in the one run, and after the first job in the other. -/
theorem exists_runs :
    ∃ log s xs log' s' xs', Unfolds oneShot [] log s xs ∧ Unfolds oneShot [] log' s' xs' ∧
    (∃ e ∈ log', IsJob oneShot .requests valueA e.2) ∧
    ∃ e ∈ log, ∃ e' ∈ log', IsJob oneShot .requests valueB e.2 ∧
      IsJob oneShot .requests valueB e'.2 ∧
      (∃ now, e.2.beats = echoed valueB now) ∧ ∃ now, e'.2.beats = echoed valueB now := by
  obtain ⟨hone, htwo⟩ := eq_of_fetched_listing
  have hjob (raw : Value) (now : Instant) := Activity.goes_beats (alone echo echoDelay)
    (Cycle.job oneShot .requests raw) now []
  have hfetch (w : Rehearsal) :=
    Activity.goes_beats Rehearsal.outside (Cycle.fetch oneShot .requests) 0 w
  have hfirst := hfetch (listing 0 jobB)
  have hsecond := hfetch (listing 5120 (jobA ++ "," ++ jobB))
  rw [show ((Cycle.fetch oneShot .requests).run Rehearsal.outside 0 _).1 = _ from hone] at hfirst
  rw [show ((Cycle.fetch oneShot .requests).run Rehearsal.outside 0 _).1 = _ from htwo] at hsecond
  obtain ⟨_, _, xs, h, hworking⟩ := exists_working (List.cons_ne_nil _ _) hfirst
  change Unfolds _ _ _ _ (([Story.fresh _ (arrival 0)] : List _) + xs) at h
  rw [← Multiset.cons_coe, Multiset.cons_add] at h
  obtain ⟨log, s, _, e, he, hrun, -, -, hjobB, hbeats⟩ :=
    exists_ended h hworking rfl (hjob valueB _)
  obtain ⟨_, _, xs', h', hworking'⟩ := exists_working (List.cons_ne_nil _ _) hsecond
  change Unfolds _ _ _ _
    (([Story.fresh _ (arrival 0), Story.fresh _ (arrival 1)] : List _) + xs') at h'
  rw [← Multiset.cons_coe, ← Multiset.cons_coe, Multiset.cons_add] at h'
  obtain ⟨_, _, ys, d, hd, h', hworking', -, hjobA, -⟩ :=
    exists_ended h' hworking' rfl (hjob valueA _)
  rw [add_assoc, Multiset.cons_add] at h'
  obtain ⟨log', s', _, e', he', hrun', -, hkept, hjobB', hbeats'⟩ :=
    exists_ended h' hworking' rfl (hjob valueB _)
  exact ⟨log, s, _, log', s', _, hrun, hrun', ⟨d, hkept d hd, hjobA⟩, e, he, e', he', hjobB, hjobB',
    ⟨_, hbeats⟩, _, hbeats'⟩

theorem jobs_apart_second : oneShot.equipment.client.session ≠ some .coordinator ∧
    ∃ log s xs log' s' xs', Unfolds oneShot [] log s xs ∧ Unfolds oneShot [] log' s' xs' ∧
      (∃ e ∈ log', IsJob oneShot .requests valueA e.2) ∧
      ∃ e ∈ log, ∃ e' ∈ log', IsJob oneShot .requests valueB e.2 ∧
        IsJob oneShot .requests valueB e'.2 ∧
        Apart echo [] (evaluation e.2.beats) ∧ Apart echo [] (evaluation e'.2.beats) ∧
        Takes echoDelay (evaluation e.2.beats) ∧ Takes echoDelay (evaluation e'.2.beats) ∧
        requestsOf (evaluation e.2.beats) = requestsOf (evaluation e'.2.beats) ∧
        posts (reporting e.2.beats) = posts (reporting e'.2.beats) := by
  have hclient : oneShot.equipment.client.session ≠ some .coordinator := nofun
  obtain ⟨hapart, -⟩ := jobs_apart oneShot hclient echo echoDelay []
  obtain ⟨log, s, xs, log', s', xs', h, h', hfirst, e, he, e',
    he', hjob, hjob', ⟨t, ht⟩, t', ht'⟩ := exists_runs
  obtain ⟨hbs, hts⟩ := apart_echoed valueB t
  obtain ⟨hcs, hts'⟩ := apart_echoed valueB t'
  rw [← ht] at hbs hts
  rw [← ht'] at hcs hts'
  obtain ⟨hsent, hposted⟩ :=
    hapart [] log s xs [] log' s' xs' h h' .requests valueB e he e' he' hjob hjob' hbs hcs
  exact ⟨hclient, log, s, xs, log', s', xs', h, h', hfirst, e, he, e', he', hjob, hjob', hbs, hcs,
    hts, hts', hsent, hposted hts hts'⟩

def oneAtATime : Worker :=
  { oneShot with settings := { oneShot.settings with concurrency := some 1 } }

def setting (jobs : String) : Rehearsal :=
  let cookie := ("set-cookie", "session=of-a; Path=/")
  { script := { rules := (listing 0 jobs).script.rules ++
      [{ path := some "/a", answer := .response 200 [cookie] (Text.utf8Bytes "ok") }] } }

def cookiesFor (path jobs : String) : List (Option String) :=
  let c :=
    serve oneAtATime Rehearsal.outside 60 (signalled oneAtATime [] (crew oneAtATime (setting jobs)))
  (c.surroundings.record.requests.filter fun r => r.2.url.plainPath == path).map fun r =>
    r.2.headers.get? "cookie"

/-- The request of a job differs by the cookie that the answer to another job has set, though every
answer is a matter of its request alone. -/
theorem cookies_shared : cookiesFor "/b" jobB = [none] ∧
    cookiesFor "/b" (jobA ++ "," ++ jobB) = [some "session=of-a"] := by
  decide +kernel

end TestWorker.Agent
