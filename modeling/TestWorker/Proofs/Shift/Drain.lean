import TestWorker.Proofs.Shift.Routine
import TestWorker.Rehearsal
import TestWorker.Rehearsal.Cycles

namespace TestWorker

namespace Rehearsal.Cycle

theorem runs_following {cycle : Nat → Cycle} {b e : Multiset Nat}
    {log : List (Ending fun _ : Nat => Unit)}
    {w : Unit} {xs : Multiset (Strand fun _ : Nat => Unit)}
    (h : Routine.Runs (following cycle) () b e log w xs) : b = e + tags xs := by
  induction h with
  | start => rfl
  | begin n _ _ ih => simp [following, Reaction.strands, ih]
  | wait _ _ ih => simpa using ih
  | @turn b e log w n r xs now _ ih =>
    have htold : (((following cycle).react now n r w).2.filterMap Signal.cycle? : Multiset Nat) =
        {n} := by
      simp only [following]
      split <;> rfl
    rw [htold, ih]
    simp [following, Reaction.strands]

theorem following_honest (cycle : Nat → Cycle) : (following cycle).Honest () :=
  fun _ _ _ _ _ h => runs_following h ▸ Multiset.le_add_right _ _

end Rehearsal.Cycle

namespace Shift
open Rehearsal.Cycle

variable {τ S σ : Type} {ρ : τ → Type} {frequency : Int}

/-- What a run of a schedule looks like at any time, against the cycles that have begun and
ended. -/
structure Drains (frequency : Int) (log : List (Ending (Tag.Result ρ))) (s : Shift S)
    (xs : Multiset (Strand (Tag.Result ρ))) : Prop where
  /-- Cycles begin with the numbers 1, 2, 3 and so on. -/
  begun : begunIn log = numbers s.schedule.begun
  ended : endedIn log ≤ begunIn log
  inFlight : s.schedule.inFlight = (begunIn log).card - (endedIn log).card
  nonneg : 0 ≤ s.schedule.inFlight
  drained : s.schedule.drained = true ↔ s.schedule.inFlight = 0
  /-- The run returns once, when all cycles have ended, with their number. -/
  returned : s.results ≠ [] →
    s.results = [s.schedule.begun] ∧ endedIn log = begunIn log ∧
      s.schedule.ended = s.schedule.begun ∧
      openings (tags xs) = 0 ∧ closings (tags xs) = 0 ∧ xs.filterMap inner? = 0
  /-- The run does not wait in vain. -/
  returns : xs = 0 → s.results ≠ []
  /-- Without a frequency exactly one cycle begins. -/
  once : frequency = 0 →
    (s.schedule.started ≠ none → begunIn log = {1}) ∧ (s.results ≠ [] → s.results = [1])

section Safety

variable {R : Routine ρ S} {w₀ : S} {log : List (Ending (Tag.Result ρ))} {s : Shift S}
  {xs : Multiset (Strand (Tag.Result ρ))}

/-- A run that has returned left nothing in flight: all cycles that have begun have ended. -/
theorem Sound.returned (h : Sound R w₀ frequency log s xs) (hR : R.Honest w₀)
    (hresults : s.results ≠ []) :
    s.schedule.started ≠ none ∧ s.results = [s.schedule.begun] ∧
      s.schedule.ended = s.schedule.begun ∧
      endedIn log = begunIn log ∧ toldIn log = openedIn log ∧ openings (tags xs) = 0 ∧
      closings (tags xs) = 0 := by
  have hsuits := h.account.suits
  have hcounts := h.account.toCounts
  unfold Suits at hsuits
  -- a result is there in one phase only, after the last cycle
  have hidle : s.schedule.started ≠ none ∧ s.schedule.inFlight = 0 ∧
      s.results = [s.schedule.begun] := by
    split at hsuits
    · split at hsuits
      · exact absurd hsuits.2 hresults
      · next hstarted => exact ⟨hstarted, hsuits.1, hsuits.2.1.resolve_left hresults⟩
    all_goals exact absurd hsuits.2.1 hresults
  obtain ⟨hstarted, hflight, hvalue⟩ := hidle
  have hended : s.schedule.ended = s.schedule.begun := by
    have := hcounts.inFlight
    omega
  have hbegun : (begunIn log).card = s.schedule.begun := by simp [hcounts.begun]
  have hcard := hcounts.ended
  have hopened := congrArg Multiset.card h.opened
  have hclosed := congrArg Multiset.card h.closed
  have htold := Multiset.card_le_card (hR h.routine)
  rw [Multiset.card_add] at hopened hclosed
  have hopenings : openings (tags xs) = 0 := Multiset.card_eq_zero.1 (by omega)
  have hclosings : closings (tags xs) = 0 := Multiset.card_eq_zero.1 (by omega)
  have hall : toldIn log = openedIn log := Multiset.eq_of_le_of_card_le (hR h.routine) (by omega)
  refine ⟨hstarted, hvalue, hended, ?_, hall, hopenings, hclosings⟩
  have h₁ := h.opened
  have h₂ := h.closed
  rw [hopenings, add_zero] at h₁
  rw [hclosings, add_zero] at h₂
  rw [h₂, hall, h₁]

end Safety

/-- Where no strand is left and nothing is in flight, the run has returned. -/
theorem Account.returned {begun ended : Multiset Nat} {s : Shift S}
    (h : Account frequency begun ended s (0 : Multiset (Tag τ)))
    (hflight : s.schedule.inFlight = 0) : s.results ≠ [] := by
  have hdrained : s.schedule.drained = true := h.drained.2 hflight
  have hawaited : Shift.awaited s = none := by simpa using h.awaited
  have hsuits := h.suits
  unfold Shift.awaited at hawaited
  unfold Suits at hsuits
  intro hresults
  cases hphase : s.schedule.phase with
  | idle =>
    rw [hphase] at hawaited
    simp only [hresults, if_true] at hawaited
    split at hawaited <;> cases hawaited
  | _ => simp_all

theorem Account.once {begun ended : Multiset Nat} {s : Shift S} {ts : Multiset (Tag τ)}
    (h : Account 0 begun ended s ts) (hstarted : s.schedule.started ≠ none) : begun = {1} := by
  have hfrequency := h.frequency
  have hsuits := h.suits
  unfold Suits at hsuits
  have hone : s.schedule.begun = 1 := by
    cases hphase : s.schedule.phase <;> simp_all
  rw [h.begun, hone]
  rfl

/-- Runs of a schedule whose cycles follow a script. -/
theorem drains {c : Console} {cycle : Nat → Rehearsal.Cycle} {maxTime : Int}
    {stops : List (Nat × List Line)} {log : List (Ending (Tag.Result fun _ : Nat => Unit))}
    {s : Shift Unit} {xs : Multiset (Strand (Tag.Result fun _ : Nat => Unit))}
    (h : Runs (plan c (following cycle)) (fresh frequency maxTime ()) (opening stops) log s xs) :
    Drains frequency log s xs := by
  have hR := following_honest cycle
  have hsound := sound hR h
  have hcounts := hsound.account.toCounts
  have hbegun : (begunIn log).card = s.schedule.begun := by simp [hcounts.begun]
  have hended := hcounts.ended
  have hcard := hsound.card_le hR
  have hcycles := runs_following hsound.routine
  have hle : endedIn log ≤ begunIn log := by
    rw [← hsound.opened]
    exact (Multiset.le_add_right _ _).trans
      (hsound.closed.le.trans ((hR hsound.routine).trans (Multiset.le_add_right _ _)))
  have hflight := hcounts.inFlight
  refine ⟨hcounts.begun, hle, ?_, ?_, hcounts.drained, ?_, ?_, ?_⟩
  · omega
  · omega
  · intro hresults
    obtain ⟨-, hvalue, hall, hequal, htold, hopenings, hclosings⟩ := hsound.returned hR hresults
    refine ⟨hvalue, hequal, hall, hopenings, hclosings, ?_⟩
    rw [htold, left_eq_add] at hcycles
    exact Multiset.map_eq_zero.1 hcycles
  · rintro rfl
    have hequal : endedIn log = begunIn log := by
      rw [← hsound.opened, hcycles, ← hsound.closed]
      simp
    have hnone : s.schedule.inFlight = 0 := by
      have := congrArg Multiset.card hequal
      omega
    exact Account.returned hsound.account hnone
  · rintro rfl
    refine ⟨hsound.account.once, fun hresults => ?_⟩
    obtain ⟨hstarted, hvalue, -⟩ := hsound.returned hR hresults
    rw [hsound.account.once hstarted, Multiset.card_singleton] at hbegun
    rw [hvalue, ← hbegun]

/-- How far a strand is from the end of a run with a single cycle. -/
def rank : Tag τ → Nat
  | .run => 6
  | .opening _ => 5
  | .inner _ => 4
  | .closing _ => 3
  | .resume turns => 2 + turns
  | .farewell _ => 1
  | .notice | .stop | .interval => 0

def Single (s : Shift S) : Prop :=
  s.schedule.frequency = 0 ∧ (s.schedule.phase = .idle ∨ s.schedule.phase = .single)

section Single
variable {s : Shift S}

/-- The schedule of a single cycle, and commands that call for strands of lower ranks. -/
def Lowers (τ : Type) (n : Nat) (x : Schedule × List Schedule.Command) : Prop :=
  (x.1.frequency = 0 ∧ (x.1.phase = .idle ∨ x.1.phase = .single)) ∧
    ∀ k ∈ x.2, rank (Tag.ofCommand k : Tag τ) < n

theorem lowers_run (h : Single s) (now : Instant) : Lowers τ 6 (s.schedule.run now) := by
  simp [Lowers, Schedule.run, Schedule.oneShot, h.1, Schedule.launch, Tag.ofCommand, rank]

theorem lowers_stop (h : Single s) : Lowers τ 0 s.schedule.stop := by
  obtain ⟨hfrequency, hphase | hphase⟩ := h <;> simp [Lowers, Schedule.stop, hfrequency, hphase]

theorem lowers_expire (h : Single s) : Lowers τ 0 s.schedule.expire := by
  obtain ⟨hfrequency, hphase | hphase⟩ := h <;> simp [Lowers, Schedule.expire, hfrequency, hphase]

theorem lowers_proceed (h : Single s) (now : Instant) : Lowers τ 2 (s.schedule.proceed now) := by
  obtain ⟨hfrequency, hphase | hphase⟩ := h <;>
    simp [Lowers, Schedule.proceed, hfrequency, hphase, Tag.ofCommand, rank]

theorem lowers_endCycle (h : Single s) (now : Instant) (n : Nat) :
    Lowers τ 3 (s.schedule.note now n false).endCycle := by
  obtain ⟨hfrequency, hphase | hphase⟩ := h <;>
    simp [Lowers, Schedule.endCycle, Schedule.note, hfrequency, hphase, Tag.ofCommand, rank]

theorem descends_follow {c : Console} {x : Schedule × List Schedule.Command}
    {n : Nat} (h : Lowers τ n x) :
    Single (follow (ρ := ρ) c s x).state ∧
      ∀ y ∈ (follow (ρ := ρ) c s x).strands, rank y.tag < n := by
  refine ⟨h.1, fun y hy => ?_⟩
  have hmem : y.tag ∈ (called x.2 : Multiset (Tag τ)) := by
    rw [← tags_follow (ρ := ρ) c s x]
    exact Multiset.mem_map_of_mem _ hy
  obtain ⟨k, hk, htag⟩ := List.mem_map.1 (Multiset.mem_coe.1 hmem)
  rw [← htag]
  exact h.2 k hk

theorem descends_heed (c : Console) {x : Reaction (Tag.Result ρ) (Shift S)}
    (h : Single x.state ∧ ∀ y ∈ x.strands, rank y.tag < 4) (signal : Signal) :
    Single (heed c x signal).state ∧ ∀ y ∈ (heed c x signal).strands, rank y.tag < 4 := by
  obtain ⟨hsingle, hlower⟩ := h
  cases signal with
  | stop =>
    obtain ⟨hstate, hstop⟩ := descends_follow (ρ := ρ) (c := c) (lowers_stop hsingle)
    refine ⟨hstate, fun y hy => ?_⟩
    rw [strands_heed_stop, Multiset.mem_add] at hy
    obtain hy | hy := hy
    · exact absurd (hstop y hy) (Nat.not_lt_zero _)
    · exact hlower y hy
  | cycleEnded n outcome =>
    refine ⟨hsingle, fun y hy => ?_⟩
    obtain ⟨lines, hlines⟩ := strands_heed_cycleEnded c x n outcome
    rw [hlines, Multiset.mem_cons] at hy
    obtain rfl | hy := hy
    · exact Nat.lt_succ_self 3
    · exact hlower y hy

theorem descends_foldl (c : Console) (signals : List Signal)
    {x : Reaction (Tag.Result ρ) (Shift S)} (h : Single x.state ∧ ∀ y ∈ x.strands, rank y.tag < 4) :
    Single (signals.foldl (heed c) x).state ∧
      ∀ y ∈ (signals.foldl (heed c) x).strands, rank y.tag < 4 := by
  induction signals generalizing x with
  | nil => exact h
  | cons signal signals ih => exact ih (descends_heed c h signal)

end Single

theorem descends_following (c : Console) (cycle : Nat → Rehearsal.Cycle) :
    Crew.Descends (plan c (following cycle)) rank Single := by
  intro now t r s hs
  cases t with
  | run => exact descends_follow (lowers_run hs now)
  | stop => exact descends_follow (lowers_stop hs)
  | interval => exact descends_follow (lowers_expire hs)
  | resume turns =>
    cases turns with
    | zero => exact descends_follow (lowers_proceed hs now)
    | succ k => exact ⟨hs, by simp [plan, Reaction.strands, rank]⟩
  | opening n => exact ⟨hs, by simp [plan, following, inner, Reaction.strands, rank]⟩
  | closing n => exact descends_follow (lowers_endCycle hs now n)
  | notice => exact ⟨hs, by simp [plan, Reaction.strands]⟩
  | farewell n => exact ⟨hs, by simp [plan, Reaction.strands]⟩
  | inner n =>
    exact descends_foldl c _ ⟨hs, by simp [following, Reaction.strands]⟩

def waiting (frequency maxTime : Int) (w₀ : S) (stops : List (Nat × List Line)) (surroundings : σ) :
    Crew (Tag.Result ρ) (Shift S) σ where
  ready := stops.map fun x => stopStrand x.1 x.2
  state := fresh frequency maxTime w₀
  surroundings := surroundings

theorem strands_ready (frequency maxTime : Int) (w₀ : S) (stops : List (Nat × List Line))
    (surroundings : σ) :
    (ready (waiting (ρ := ρ) frequency maxTime w₀ stops surroundings)).strands = opening stops := by
  simp only [ready, waiting, Crew.strands, opening, List.map_nil, Multiset.coe_nil, add_zero]
  rw [← Multiset.coe_add, Multiset.coe_singleton, add_comm, Multiset.singleton_add]

theorem runs_serve (c : Console) (R : Routine ρ S) (w₀ : S) (frequency maxTime : Int)
    (stops : List (Nat × List Line)) (o : Outside σ) (fuel : Nat) (surroundings : σ) :
    ∃ log, Runs (plan c R) (fresh frequency maxTime w₀) (opening stops) log
      (serve c R o fuel (waiting frequency maxTime w₀ stops surroundings)).state
      (serve c R o fuel (waiting frequency maxTime w₀ stops surroundings)).strands := by
  have hstart : Runs (plan c R) (fresh frequency maxTime w₀) (opening stops) []
      (fresh frequency maxTime w₀)
      (ready (waiting frequency maxTime w₀ stops surroundings)).strands := by
    rw [strands_ready]
    exact .start
  exact Crew.runs_runUntil _ fuel hstart

/-- A single cycle comes to its end, also where it fails. -/
theorem serve_single (c : Console) (cycle : Nat → Rehearsal.Cycle)
    (maxTime : Int) (stops : List (Nat × List Line)) (o : Outside σ) (surroundings : σ) :
    ∃ n, ∀ fuel, n ≤ fuel →
      (serve c (following cycle) o fuel (waiting 0 maxTime () stops surroundings)).state.results =
        [1] := by
  obtain ⟨n, hn⟩ := Crew.exists_end (o := o) (descends_following c cycle)
    (fun s => decide (1 ≤ s.results.length)) (ready (waiting 0 maxTime () stops surroundings))
    ⟨rfl, .inl rfl⟩
  refine ⟨n, fun fuel hfuel => ?_⟩
  obtain ⟨log, hlog⟩ := runs_serve c (following cycle) () 0 maxTime stops o fuel surroundings
  have hdrains := drains hlog
  refine (hdrains.once rfl).2 ?_
  obtain hend | hend := hn fuel hfuel
  · have hlength : 1 ≤ (serve c (following cycle) o fuel
        (waiting 0 maxTime () stops surroundings)).state.results.length := of_decide_eq_true hend
    exact List.ne_nil_of_length_pos hlength
  · exact hdrains.returns hend

/-- A run of a schedule drains, whatever its cycles do and in whatever order timers, cycles and
stops come; and a single cycle comes to its end in all surroundings. -/
theorem run_drains (c : Console) (cycle : Nat → Rehearsal.Cycle)
    (frequency maxTime : Int) (stops : List (Nat × List Line)) :
    (∀ log s xs,
      Runs (plan c (following cycle)) (fresh frequency maxTime ()) (opening stops) log s xs →
      Drains frequency log s xs) ∧
    (∀ {σ : Type} (o : Outside σ) (fuel : Nat) (surroundings : σ), ∃ log,
      Runs (plan c (following cycle)) (fresh frequency maxTime ()) (opening stops) log
        (serve c (following cycle) o fuel (waiting frequency maxTime () stops surroundings)).state
        (serve c (following cycle) o fuel
          (waiting frequency maxTime () stops surroundings)).strands) ∧
    (frequency = 0 → ∀ {σ : Type} (o : Outside σ) (surroundings : σ), ∃ n, ∀ fuel, n ≤ fuel →
      (serve c (following cycle) o fuel
        (waiting frequency maxTime () stops surroundings)).state.results = [1]) := by
  refine ⟨fun log s xs h => drains h, fun o fuel surroundings => runs_serve _ _ _ _ _ _ _ _ _, ?_⟩
  rintro rfl
  exact fun o surroundings => serve_single c cycle maxTime stops o surroundings

def overlapping (n : Nat) : Rehearsal.Cycle :=
  if n = 1 then { duration := 5120, fault := some (.raised "RuntimeError" none) }
  else { duration := 128 }

theorem run_drains_overlapping :
    (∃ log, Runs (plan {} (following overlapping)) (fresh 10 25 ()) (opening []) log
      (serve {} (following overlapping) Rehearsal.outside 100 (waiting 10 25 () [] {})).state
      (serve {} (following overlapping) Rehearsal.outside 100 (waiting 10 25 () [] {})).strands ∧
      begunIn log = {1, 2} ∧ endedIn log = {1, 2}) ∧
    ∃ n, ∀ fuel, n ≤ fuel → (serve {} (following overlapping) Rehearsal.outside fuel
      (waiting 0 25 () [] {})).state.results = [1] := by
  obtain ⟨hsafe, hruns, -⟩ := run_drains {} overlapping 10 25 []
  obtain ⟨log, hlog⟩ := hruns Rehearsal.outside 100 {}
  have hresults : (serve {} (following overlapping) Rehearsal.outside 100
      (waiting 10 25 () [] {})).state.results = [2] := by decide +kernel
  have hdrains := hsafe _ _ _ hlog
  obtain ⟨hvalue, hequal, -⟩ := hdrains.returned (by simp [hresults])
  have hbegun : begunIn log = {1, 2} := by
    rw [hdrains.begun, ← List.singleton_inj.1 (hresults.symm.trans hvalue)]
    rfl
  exact ⟨⟨log, hlog, hbegun, hequal.trans hbegun⟩,
    (run_drains {} overlapping 0 25 []).2.2 rfl Rehearsal.outside {}⟩

end Shift
end TestWorker
