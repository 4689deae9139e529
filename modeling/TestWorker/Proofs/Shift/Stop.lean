import TestWorker.Proofs.Shift.Drain

namespace TestWorker

namespace Schedule
variable {s : Schedule}

/-- A stop has been called for, and no interval is waited for any more. -/
structure Stopped (s : Schedule) : Prop where
  stopping : s.stopping = true
  repeated : s.frequency ≠ 0
  awake : s.phase ≠ .sleeping

theorem stopped_stop (h : s.frequency ≠ 0) : s.stop.1.Stopped := by
  simp only [stop]
  split
  · exact ⟨rfl, h, by simp⟩
  · next hphase => exact ⟨rfl, h, hphase⟩

theorem begun_stop (s : Schedule) : s.stop.1.begun = s.begun := by
  simp only [stop]
  split <;> rfl

theorem phase_stop (s : Schedule) : s.stop.1.phase = .due ↔ s.phase = .due := by
  simp only [stop]
  split
  · next hphase =>
    have hphase : s.phase = .sleeping := hphase
    simp [hphase]
  · rfl

theorem Stopped.stop (h : s.Stopped) : s.stop = (s, []) := by
  have hsame : { s with stopping := true } = s := by
    rw [← h.stopping]
  simp only [Schedule.stop]
  split
  · next hphase => exact absurd hphase h.awake
  · rw [hsame]

theorem Stopped.rest (h : s.Stopped) : s.rest = s.drain := by
  simp [Schedule.rest, h.stopping]

end Schedule

namespace Shift
open Rehearsal.Cycle Schedule
variable {τ S σ : Type} {ρ : τ → Type}

/-- Nothing begins and nothing comes to be due. What is called for has a lower rank. -/
structure Quiet (n : Nat) (s s' : Schedule) (ts : Multiset (Tag τ)) : Prop where
  stopped : s'.Stopped
  begun : s'.begun = s.begun
  due : s'.phase = .due → s.phase = .due
  opens : openings ts = 0
  lower : ∀ t ∈ ts, rank t < n

/-- The cycle that was due begins. -/
structure Begins (s s' : Schedule) (ts : Multiset (Tag τ)) : Prop where
  stopped : s'.Stopped
  due : s.phase = .due
  spent : s'.phase ≠ .due
  opens : openings ts = {s.begun + 1}

section
variable {s : Schedule}

theorem Quiet.mono {n m : Nat} {s' : Schedule} {ts : Multiset (Tag τ)} (h : Quiet n s s' ts)
    (hle : n ≤ m) : Quiet m s s' ts :=
  ⟨h.stopped, h.begun, h.due, h.opens, fun t ht => Nat.lt_of_lt_of_le (h.lower t ht) hle⟩

theorem Quiet.of_eq {n : Nat} {s₁ s' : Schedule} {ts : Multiset (Tag τ)} (h : Quiet n s₁ s' ts)
    (hbegun : s₁.begun = s.begun) (hphase : s₁.phase = s.phase) : Quiet n s s' ts :=
  ⟨h.stopped, h.begun.trans hbegun, fun hdue => hphase ▸ h.due hdue, h.opens, h.lower⟩

theorem quiet_none {s' : Schedule} (n : Nat) (h : s'.Stopped) (hbegun : s'.begun = s.begun)
    (hphase : s'.phase = s.phase) : Quiet n s s' (0 : Multiset (Tag τ)) :=
  ⟨h, hbegun, fun hdue => hphase ▸ hdue, rfl, by simp⟩

theorem quiet_drain (h : s.Stopped) :
    Quiet (τ := τ) 2 s s.drain.1 (called s.drain.2) ∧ s.drain.1.phase ≠ .due := by
  unfold Schedule.drain
  split
  · exact ⟨⟨⟨h.stopping, h.repeated, by simp⟩, rfl, by simp,
      rfl, by simp [Tag.ofCommand, rank]⟩, by simp⟩
  · exact ⟨⟨⟨h.stopping, h.repeated, by simp⟩, rfl, by simp, rfl, by simp⟩, by simp⟩

theorem quiet_run (h : s.Stopped) (now : Instant) :
    Quiet (τ := τ) 6 s (s.run now).1 (called (s.run now).2) := by
  have hstarted : ({ s with started := some now } : Schedule).Stopped :=
    ⟨h.stopping, h.repeated, h.awake⟩
  have hrun : s.run now = ({ s with started := some now } : Schedule).drain := by
    rw [← hstarted.rest]
    simp [Schedule.run, oneShot, h.repeated]
  rw [hrun]
  exact ((quiet_drain hstarted).1.mono (by decide)).of_eq rfl rfl

theorem quiet_stop (h : s.Stopped) (n : Nat) : Quiet (τ := τ) n s s.stop.1 (called s.stop.2) := by
  rw [h.stop]
  exact quiet_none n h rfl rfl

theorem quiet_expire (h : s.Stopped) (n : Nat) :
    Quiet (τ := τ) n s s.expire.1 (called s.expire.2) := by
  unfold Schedule.expire
  split
  · next hphase => exact absurd hphase h.awake
  · exact quiet_none n h rfl rfl

theorem quiet_endCycle (h : s.Stopped) : Quiet (τ := τ) 3 s s.endCycle.1 (called s.endCycle.2) := by
  have hstopped : s.endCycle.1.Stopped ∧ s.endCycle.1.begun = s.begun ∧
      s.endCycle.1.phase = s.phase := by
    simp only [Schedule.endCycle]
    split <;> exact ⟨⟨h.stopping, h.repeated, h.awake⟩, rfl, rfl⟩
  have hcalled : s.endCycle.2 = [] ∨ s.endCycle.2 = [.resume 0] := by
    simp only [Schedule.endCycle]
    split
    · split
      · exact .inr rfl
      · exact .inl rfl
    · exact .inr rfl
    · exact .inl rfl
  obtain ⟨hs, hbegun, hphase⟩ := hstopped
  rcases hcalled with hnone | hresume
  · rw [hnone]
    exact quiet_none 3 hs hbegun hphase
  · rw [hresume]
    exact ⟨hs, hbegun, fun hdue => hphase ▸ hdue, rfl, by simp [Tag.ofCommand, rank]⟩

/-- The run goes on: it drains, unless a cycle is due and there is time for it. -/
theorem quiet_or_begins_proceed (h : s.Stopped) (now : Instant) :
    Quiet (τ := τ) 2 s (s.proceed now).1 (called (s.proceed now).2) ∨
      Begins (τ := τ) s (s.proceed now).1 (called (s.proceed now).2) := by
  cases hphase : s.phase with
  | sleeping => exact absurd hphase h.awake
  | idle =>
    left
    simp only [Schedule.proceed, hphase]
    exact quiet_none 2 h rfl rfl
  | roused | draining =>
    left
    simp only [Schedule.proceed, hphase]
    exact (quiet_drain h).1
  | single =>
    left
    simp only [Schedule.proceed, hphase]
    exact ⟨⟨h.stopping, h.repeated, by simp⟩, rfl, by simp, rfl, by simp [Tag.ofCommand, rank]⟩
  | due =>
    simp only [Schedule.proceed, hphase]
    split
    · left
      obtain ⟨hquiet, -⟩ := quiet_drain (τ := τ) h
      refine ⟨hquiet.stopped, hquiet.begun, hquiet.due, ?_, ?_⟩
      · simpa [Tag.ofCommand, Tag.opening?] using hquiet.opens
      · simpa [Tag.ofCommand, rank] using hquiet.lower
    · right
      have hlaunch : s.launch.Stopped := ⟨h.stopping, h.repeated, h.awake⟩
      obtain ⟨hquiet, hover⟩ := quiet_drain (τ := τ) hlaunch
      rw [hlaunch.rest]
      refine ⟨hquiet.stopped, hphase, hover, ?_⟩
      have hbegun : s.launch.drain.1.begun = s.begun + 1 := hquiet.begun
      simp [Tag.ofCommand, Tag.opening?, hquiet.opens, hbegun]

/-- What has begun since a stop: nothing, or the one cycle that was due then. -/
inductive Since (s₀ s : Schedule) : Multiset Nat → Prop
  | nothing (hbegun : s.begun = s₀.begun) (hdue : s.phase = .due → s₀.phase = .due) : Since s₀ s 0
  | late (hdue : s₀.phase = .due) (hspent : s.phase ≠ .due) : Since s₀ s {s₀.begun + 1}

theorem Since.quiet {n : Nat} {s₀ s' : Schedule} {ns : Multiset Nat} {ts : Multiset (Tag τ)}
    (h : Since s₀ s ns) (hquiet : Quiet n s s' ts) : Since s₀ s' (openings ts + ns) := by
  rw [hquiet.opens, zero_add]
  cases h with
  | nothing hbegun hdue =>
    exact .nothing (hquiet.begun.trans hbegun) fun h => hdue (hquiet.due h)
  | late hdue hspent => exact .late hdue fun h => hspent (hquiet.due h)

theorem Since.begins {s₀ s' : Schedule} {ns : Multiset Nat} {ts : Multiset (Tag τ)}
    (h : Since s₀ s ns) (hbegins : Begins s s' ts) : Since s₀ s' (openings ts + ns) := by
  rw [hbegins.opens]
  cases h with
  | nothing hbegun hdue =>
    rw [hbegun, add_zero]
    exact .late (hdue hbegins.due) hbegins.spent
  | late _ hspent => exact absurd hbegins.due hspent

theorem Since.of_stop {s' : Schedule} {ns : Multiset Nat} (h : Since s.stop.1 s' ns) :
    (s.phase ≠ .due → ns = 0) ∧ ns ≤ {s.begun + 1} := by
  cases h with
  | nothing => exact ⟨fun _ => rfl, Multiset.zero_le _⟩
  | late hdue =>
    rw [phase_stop] at hdue
    rw [begun_stop]
    exact ⟨fun hnot => absurd hdue hnot, le_rfl⟩

end

/-- The end of a cycle's strand: the cycle is to be closed and, before that, the stop that it may
ask for is heeded. -/
theorem turn_inner (c : Console) (cycle : Nat → Rehearsal.Cycle)
    (now : Instant) (n : Nat) (r : Unit) (s : Shift Unit) :
    let y := plan c (following cycle) now (.inner n) r s
    ((cycle n).stops = true → y.state.schedule = s.schedule.stop.1 ∧
      y.tags = .closing n ::ₘ called s.schedule.stop.2) ∧
    ((cycle n).stops = false → y.state.schedule = s.schedule ∧ y.tags = {.closing n}) := by
  intro y
  constructor
  · intro hstops
    have hy : y = heed c (heed c { state := s } .stop) (.cycleEnded n (cycle n).outcome) := by
      simp [y, plan, following, hstops]
    obtain ⟨lines, hstrands⟩ :=
      strands_heed_cycleEnded c (heed (ρ := fun _ : Nat => Unit) c { state := s } .stop)
      n (cycle n).outcome
    constructor
    · rw [hy]
      rfl
    · rw [hy, Reaction.tags, hstrands, strands_heed_stop, tags_cons, tags_add,
        ← tags_follow (ρ := fun _ : Nat => Unit) c s s.schedule.stop]
      exact congrArg _ (add_zero _)
  · intro hstops
    have hy : y = heed c { state := s } (.cycleEnded n (cycle n).outcome) := by
      simp [y, plan, following, hstops]
    obtain ⟨lines, hstrands⟩ :=
      strands_heed_cycleEnded (ρ := fun _ : Nat => Unit) c { state := s } n
      (cycle n).outcome
    constructor
    · rw [hy]
      rfl
    · rw [hy, Reaction.tags, hstrands, tags_cons]
      rfl

theorem turn_stopped (c : Console) (cycle : Nat → Rehearsal.Cycle) (now : Instant) (t : Tag Nat)
    (r : Tag.Result (fun _ : Nat => Unit) t) {s : Shift Unit} (h : s.schedule.Stopped) :
    let y := plan c (following cycle) now t r s
    Quiet (rank t) s.schedule y.state.schedule y.tags ∨
      Begins s.schedule y.state.schedule y.tags := by
  intro y
  cases t with
  | run => exact .inl (tags_follow c s _ ▸ quiet_run h now)
  | stop => exact .inl (tags_follow c s _ ▸ quiet_stop h 0)
  | interval => exact .inl (tags_follow c s _ ▸ quiet_expire h 0)
  | closing n =>
    have hnote : (s.schedule.note now n false).Stopped := ⟨h.stopping, h.repeated, h.awake⟩
    exact .inl (tags_follow c s _ ▸ (quiet_endCycle hnote).of_eq rfl rfl)
  | resume turns =>
    cases turns with
    | zero =>
      exact tags_follow (ρ := fun _ : Nat => Unit) c s (s.schedule.proceed now)
        ▸ quiet_or_begins_proceed h now
    | succ k =>
      left
      exact ⟨h, rfl, id, rfl, by simp [y, plan, Reaction.tags, Reaction.strands, rank]⟩
  | opening n =>
    left
    exact ⟨⟨h.stopping, h.repeated, h.awake⟩, rfl, id, rfl,
      by simp [y, plan, following, inner, Reaction.tags, Reaction.strands, rank]⟩
  | notice => exact .inl (quiet_none _ h rfl rfl)
  | farewell n => exact .inl (quiet_none _ h rfl rfl)
  | inner n =>
    left
    obtain ⟨hstops, hgoes⟩ := turn_inner c cycle now n r s
    have hy : y.state.schedule = s.schedule ∧ y.tags = {.closing n} := by
      cases hc : (cycle n).stops with
      | true =>
        have hstop := hstops hc
        rw [h.stop] at hstop
        exact hstop
      | false => exact hgoes hc
    rw [hy.1, hy.2]
    exact ⟨h, rfl, id, rfl, by simp [rank]⟩

/-- A turn in which a stop is called: one that comes from outside, or one that a cycle asks for. -/
def CallsStop (cycle : Nat → Rehearsal.Cycle) : Tag Nat → Prop
  | .stop => True
  | .inner n => (cycle n).stops = true
  | _ => False

theorem turn_calls (c : Console) {cycle : Nat → Rehearsal.Cycle} (now : Instant) {t : Tag Nat}
    (r : Tag.Result (fun _ : Nat => Unit) t) (s : Shift Unit) (h : CallsStop cycle t) :
    let y := plan c (following cycle) now t r s
    y.state.schedule = s.schedule.stop.1 ∧ openings y.tags = 0 := by
  intro y
  cases t with
  | stop => exact ⟨rfl, tags_follow c s _ ▸ (called_stop s.schedule).1⟩
  | inner n =>
    obtain ⟨hschedule, htags⟩ := (turn_inner c cycle now n r s).1 h
    refine ⟨hschedule, ?_⟩
    rw [htags, openings, filterMap_cons]
    exact (called_stop s.schedule).1
  | _ => exact h.elim

def pending (s : Shift Unit) : Nat := if s.schedule.phase = .due then 1 else 0

/-- Closer to the end: fewer cycles are due, or as many, and the crew is smaller. -/
def Nearer (y x : Crew (Tag.Result fun _ : Nat => Unit) (Shift Unit) σ) : Prop :=
  Prod.Lex (· < ·) (Crew.Smaller rank) (pending y.state, y) (pending x.state, x)

theorem nearer_wellFounded : WellFounded (Nearer (σ := σ)) :=
  InvImage.wf (fun x : Crew (Tag.Result fun _ : Nat => Unit) (Shift Unit) σ => (pending x.state, x))
    (Nat.lt_wfRel.wf.prod_lex (Crew.smaller_wellFounded rank))

section
variable {c : Console} {cycle : Nat → Rehearsal.Cycle} {s₀ s : Shift Unit}
  {xs₀ xs : Multiset (Strand (Tag.Result fun _ : Nat => Unit))}
  {later : List (Ending (Tag.Result fun _ : Nat => Unit))}

theorem begunIn_append (later log : List (Ending (Tag.Result ρ))) :
    begunIn (later ++ log) = begunIn later + begunIn log := by
  simp [begunIn]

theorem begun_after_stop (h₀ : s₀.schedule.Stopped)
    (h : Runs (plan c (following cycle)) s₀ xs₀ later s xs) :
    s.schedule.Stopped ∧ Since s₀.schedule s.schedule (begunIn later) := by
  refine Runs.invariant (P := fun later s _ => s.schedule.Stopped ∧
    Since s₀.schedule s.schedule (begunIn later)) ⟨h₀, .nothing rfl id⟩ ?_ h
  intro later s now t r ts hP
  obtain ⟨hs, hsince⟩ := hP
  rw [begunIn_cons]
  rcases turn_stopped c cycle now t r hs with hquiet | hbegins
  · exact ⟨hquiet.stopped, hsince.quiet hquiet⟩
  · exact ⟨hbegins.stopped, hsince.begins hbegins⟩

variable {frequency maxTime : Int} {stops : List (Nat × List Line)}
  {log : List (Ending (Tag.Result fun _ : Nat => Unit))}

/-- A cycle that is due begins once, and all other turns lead to strands of lower ranks. -/
theorem turn_nearer {o : Outside σ} {x y : Crew (Tag.Result fun _ : Nat => Unit) (Shift Unit) σ}
    (hx : x.state.schedule.Stopped) (h : x.turn (plan c (following cycle)) o = some y) :
    y.state.schedule.Stopped ∧ Nearer y x := by
  -- a move of the clock or within a strand, or the end of a strand
  rcases Crew.turn_smaller rank h with ⟨hstate, hsmaller⟩ | ⟨t, r, hstate, hsmaller⟩
  · simp only [Nearer, pending, hstate]
    exact ⟨hx, .right _ hsmaller⟩
  rcases turn_stopped c cycle x.now t r hx with hquiet | hbegins
  · refine ⟨hstate ▸ hquiet.stopped, ?_⟩
    have hlower := hsmaller fun z hz => hquiet.lower z.tag (Multiset.mem_map_of_mem _ hz)
    have hle : pending y.state ≤ pending x.state := by
      simp only [pending, hstate]
      split
      · next hdue => rw [if_pos (hquiet.due hdue)]
      · exact Nat.zero_le _
    rcases Nat.lt_or_eq_of_le hle with hlt | heq
    · exact .left _ _ hlt
    · rw [Nearer, heq]
      exact .right _ hlower
  · refine ⟨hstate ▸ hbegins.stopped, .left _ _ ?_⟩
    simp only [pending, hstate]
    rw [if_neg hbegins.spent, if_pos hbegins.due]
    exact Nat.zero_lt_one

/-- A crew that has been stopped comes to its end, and a run that ends has returned. -/
theorem returns_after_stop (o : Outside σ)
    (crew : Crew (Tag.Result fun _ : Nat => Unit) (Shift Unit) σ) (hs : crew.state.schedule.Stopped)
    (h : Runs (plan c (following cycle)) (fresh frequency maxTime ()) (opening stops) log crew.state
      crew.strands) :
    ∃ n, ∀ fuel, n ≤ fuel → (Crew.runUntil (plan c (following cycle)) o
      (fun s => decide (1 ≤ s.results.length)) fuel crew).state.results ≠ [] := by
  obtain ⟨n, hn⟩ := Crew.exists_end_of_wellFounded (I := fun x => x.state.schedule.Stopped)
    nearer_wellFounded (fun s : Shift Unit => decide (1 ≤ s.results.length))
    (fun x y hx _ h => turn_nearer hx h) crew hs
  refine ⟨n, fun fuel hfuel => ?_⟩
  obtain ⟨log', hlog⟩ := Crew.runs_runUntil (o := o)
    (fun s : Shift Unit => decide (1 ≤ s.results.length)) fuel h
  rcases (hn fuel hfuel).2 with hend | hend
  · have hlength := of_decide_eq_true hend
    exact List.ne_nil_of_length_pos hlength
  · exact (drains hlog).returns hend

end

/-- When a stop is called in a run with a frequency, no cycle begins from then on, unless the
interval has passed already; then the cycle that is due may begin, and no other. In all orders of
timers, cycles and stops the run returns only when every cycle that has begun has ended, and in all
surroundings it does return. -/
theorem stop_winds_up (c : Console) (cycle : Nat → Rehearsal.Cycle)
    {frequency : Int} (hfrequency : frequency ≠ 0) (maxTime : Int)
    (stops : List (Nat × List Line)) {log : List (Ending (Tag.Result fun _ : Nat => Unit))}
    {s : Shift Unit} {t : Tag Nat} {r : Tag.Result (fun _ : Nat => Unit) t}
    {xs : Multiset (Strand (Tag.Result fun _ : Nat => Unit))}
    (h : Runs (plan c (following cycle)) (fresh frequency maxTime ()) (opening stops) log s
      (⟨t, .done r⟩ ::ₘ xs)) (hcalls : CallsStop cycle t) (now : Instant) :
    let y := plan c (following cycle) now t r s
    let call : Ending (Tag.Result fun _ : Nat => Unit) := ⟨now, t, r, y.strands⟩
    (∀ later s' xs', Runs (plan c (following cycle)) y.state (y.strands + xs) later s' xs' →
      (s.schedule.phase ≠ .due → begunIn (later ++ [call]) = 0) ∧
      begunIn (later ++ [call]) ≤ {s.schedule.begun + 1} ∧
      (s'.results ≠ [] → s'.results = [s'.schedule.begun] ∧
        endedIn (later ++ call :: log) = begunIn (later ++ call :: log))) ∧
    ∀ {σ : Type} (o : Outside σ) (crew : Crew (Tag.Result fun _ : Nat => Unit) (Shift Unit) σ),
      crew.state = y.state → crew.strands = y.strands + xs → ∃ n, ∀ fuel, n ≤ fuel →
        (Crew.runUntil (plan c (following cycle)) o (fun s => decide (1 ≤ s.results.length)) fuel
          crew).state.results ≠ [] := by
  intro y call
  obtain ⟨hschedule, hopens⟩ := turn_calls c now r s hcalls
  have hcall : Runs (plan c (following cycle)) (fresh frequency maxTime ()) (opening stops)
      (call :: log) y.state (y.strands + xs) := .turn now h
  have hrepeated : s.schedule.frequency ≠ 0 := by
    rw [(sound (following_honest cycle) h).account.frequency]
    exact hfrequency
  have hstopped : y.state.schedule.Stopped := hschedule ▸ stopped_stop hrepeated
  refine ⟨?_, ?_⟩
  · intro later s' xs' hlater
    -- the call itself begins nothing
    have hbegun : begunIn (later ++ [call]) = begunIn later := by
      have hnone : begunIn [call] = 0 := (begunIn_cons call []).trans ((add_zero _).trans hopens)
      rw [begunIn_append, hnone, add_zero]
    rw [hbegun]
    have hsince := (begun_after_stop hstopped hlater).2
    rw [hschedule] at hsince
    obtain ⟨hnone, hone⟩ := hsince.of_stop
    refine ⟨hnone, hone, fun hresults => ?_⟩
    have hreturned := (drains (hcall.trans hlater)).returned hresults
    exact ⟨hreturned.1, hreturned.2.1⟩
  · intro σ o crew hstate hstrands
    have hcrew : Runs (plan c (following cycle)) (fresh frequency maxTime ()) (opening stops)
        (call :: log) crew.state crew.strands := by
      rw [hstate, hstrands]
      exact hcall
    exact returns_after_stop o crew (hstate ▸ hstopped) hcrew

/-- The stop comes while the first interval passes. -/
theorem stop_winds_up_asleep :
    ∃ log s xs,
      Runs (plan {} (following fun _ => {})) (fresh 125 0 ()) (opening [(0, [])]) log s
        (⟨.stop, .done ()⟩ ::ₘ xs) ∧
      s.schedule.phase = .sleeping ∧
      ∀ later s' xs',
        Runs (plan {} (following fun _ => {})) (plan {} (following fun _ => {}) 0 .stop () s).state
        ((plan {} (following fun _ => {}) 0 .stop () s).strands + xs) later s' xs' →
          begunIn later = 0 := by
  let y := plan {} (following fun _ => {}) 0 .run () (fresh 125 0 ())
  have hrun : Runs (plan {} (following fun _ => {})) (fresh 125 0 ()) (opening [(0, [])])
      [⟨0, .run, (), y.strands⟩] y.state (stopStrand 0 [] ::ₘ y.strands) := by
    rw [← Multiset.singleton_add, add_comm]
    exact .turn 0 .start
  have hstop : Runs (plan {} (following fun _ => {})) (fresh 125 0 ()) (opening [(0, [])])
      [⟨0, .run, (), y.strands⟩] y.state (⟨.stop, .done ()⟩ ::ₘ y.strands) :=
    hrun.wait (.next (e := .pause 0) ())
  refine ⟨_, _, _, hstop, rfl, fun later s' xs' hlater => ?_⟩
  have hnone := ((stop_winds_up {} (fun _ => {}) (by decide) 0 [(0, [])] hstop trivial 0).1
    later s' xs' hlater).1 nofun
  rw [begunIn_append] at hnone
  exact (add_eq_zero.1 hnone).1

def stopping : Nat → Rehearsal.Cycle := get [{ duration := 16000, stops := true }]

/-- The second interval has passed at the instant at which the first cycle asks for the stop, and
the second cycle begins after it. -/
theorem stop_too_late :
    ∃ log s xs later s' xs',
      Runs (plan {} (following stopping)) (fresh 125 0 ()) (opening []) log s xs ∧
      s.schedule.stopping = true ∧ begunIn log = {1} ∧
      Runs (plan {} (following stopping)) s xs later s' xs' ∧ begunIn later = {2} := by
  -- the run up to the stop, and from there up to the second cycle
  let crew := ready (waiting (ρ := fun _ : Nat => Unit) 125 0 () [] ({} : Rehearsal))
  let first := Crew.runUntil (plan {} (following stopping)) Rehearsal.outside
    (fun s => s.schedule.stopping) 50 crew
  let second := Crew.runUntil (plan {} (following stopping)) Rehearsal.outside
    (fun s => decide (2 ≤ s.schedule.begun)) 50 first
  have hstopping : first.state.schedule.stopping = true := by decide +kernel
  have hone : first.state.schedule.begun = 1 := by decide +kernel
  have htwo : second.state.schedule.begun = 2 := by decide +kernel
  have hstart : Runs (plan {} (following stopping)) (fresh 125 0 ()) (opening []) [] crew.state
      crew.strands := by
    rw [strands_ready]
    exact .start
  obtain ⟨log, hlog⟩ := Crew.runs_runUntil (o := Rehearsal.outside)
    (fun s : Shift Unit => s.schedule.stopping) 50 hstart
  obtain ⟨later, hlater⟩ := Crew.runs_runUntil (p := plan {} (following stopping))
    (o := Rehearsal.outside) (c := first)
    (fun s : Shift Unit => decide (2 ≤ s.schedule.begun)) 50 .start
  have hbegun : begunIn log = {1} := by
    rw [(drains hlog).begun, hone]
    rfl
  have hboth : begunIn (later ++ log) = {2} + {1} := by
    rw [(drains (hlog.trans hlater)).begun, htwo]
    decide
  rw [begunIn_append, hbegun] at hboth
  refine ⟨log, first.state, first.strands, later, second.state, second.strands, hlog, hstopping,
    hbegun, hlater, ?_⟩
  exact add_right_cancel hboth

end Shift
end TestWorker
