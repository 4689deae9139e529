import TestWorker.Proofs.Shift.Timetable

namespace TestWorker.Shift

/-- The cycle of a strand, and how far the cycle has come. -/
def Tag.part? : Tag Nat → Option (Nat × Part)
  | .opening n => some (n, .opening)
  | .inner n => some (n, .running)
  | .closing n => some (n, .closing)
  | _ => none

/-- Strands that end as soon as they begin. -/
def Tag.prompt : Tag Nat → Bool
  | .inner _ | .interval | .stop => false
  | _ => true

def Tag.interval? (x : Nat × Tag Nat) : Option Nat :=
  match x.2 with
  | .interval => some x.1
  | _ => none

theorem time_of_interval? {x : Nat × Tag Nat} {t : Nat} (h : Tag.interval? x = some t) :
    x.1 = t := by
  unfold Tag.interval? at h
  split at h
  · exact Option.some_inj.1 h
  · cases h

variable {P : Multiset (Nat × Tag Nat)}

/-- The cycles that are on their way, with the times at which their strands end. -/
def parts (P : Multiset (Nat × Tag Nat)) : Multiset (Nat × Nat × Part) :=
  P.filterMap fun x => x.2.part?.map (x.1, ·)

def intervals (P : Multiset (Nat × Tag Nat)) : Multiset Nat := P.filterMap Tag.interval?

@[simp] theorem parts_add (P Q : Multiset (Nat × Tag Nat)) : parts (P + Q) = parts P + parts Q :=
  Multiset.filterMap_add _ _ _

@[simp] theorem intervals_add (P Q : Multiset (Nat × Tag Nat)) :
    intervals (P + Q) = intervals P + intervals Q :=
  Multiset.filterMap_add _ _ _

theorem parts_cons_of_none {x : Nat × Tag Nat} (h : x.2.part? = none) : parts (x ::ₘ P) = parts P :=
  Multiset.filterMap_cons_none _ _ (by rw [h]; rfl)

theorem parts_cons_of_some {x : Nat × Tag Nat} {k : Nat × Part} (h : x.2.part? = some k) :
    parts (x ::ₘ P) = (x.1, k) ::ₘ parts P :=
  Multiset.filterMap_cons_some _ _ _ (by rw [h]; rfl)

theorem parts_eq_zero : parts P = 0 ↔ ∀ x ∈ P, x.2.part? = none := by
  rw [parts, filterMap_eq_zero]
  simp only [Option.map_eq_none_iff]

@[simp] theorem intervals_cons_interval (t : Nat) :
    intervals ((t, .interval) ::ₘ P) = t ::ₘ intervals P :=
  Multiset.filterMap_cons_some _ _ _ rfl

theorem intervals_cons_of_none {x : Nat × Tag Nat} (h : Tag.interval? x = none) :
    intervals (x ::ₘ P) = intervals P :=
  Multiset.filterMap_cons_none _ _ h

theorem le_of_intervals {now e : Nat} (h : intervals P = {e}) (hnext : ∀ x ∈ P, now ≤ x.1) :
    now ≤ e := by
  have hmem : e ∈ intervals P := by
    rw [h]
    exact Multiset.mem_singleton_self e
  obtain ⟨x, hx, hxt⟩ := (Multiset.mem_filterMap _ _).1 hmem
  rw [← time_of_interval? hxt]
  exact hnext x hx

def wait : Schedule.Command → Nat
  | .sleep interval => interval
  | _ => 0

def timed (now : Nat) (ks : List Schedule.Command) : Multiset (Nat × Tag Nat) :=
  (ks.map fun k => (now + wait k, Tag.ofCommand k) : List (Nat × Tag Nat))

@[simp] theorem timed_nil (now : Nat) : timed now [] = 0 := rfl

@[simp] theorem timed_cons (now : Nat) (k : Schedule.Command) (ks : List Schedule.Command) :
    timed now (k :: ks) = (now + wait k, Tag.ofCommand k) ::ₘ timed now ks := rfl

abbrev CycleStrand := Strand (Tag.Result fun _ : Nat => Unit)

theorem ends_follow (c : Console) (s : Shift Unit) (now : Nat)
    (x : Schedule × List Schedule.Command) :
    Crew.ends now (follow (ρ := fun _ : Nat => Unit) c s x).strands = timed now x.2 := by
  have hone : ∀ k,
    ((obey (ρ := fun _ : Nat => Unit) c x.1.oneShot k).1 ++ (obey c x.1.oneShot k).2).map
      (fun y : CycleStrand => (now + y.rest.pauses, y.tag)) =
          [(now + wait k, Tag.ofCommand k)] := by
    have hat : ∀ {p : Nat} (k : Schedule.Command), p = wait k →
        [(now + p, (Tag.ofCommand k : Tag Nat))] = [(now + wait k, Tag.ofCommand k)] :=
      fun k hp => by rw [hp]
    intro k
    cases k with
    | sleep interval => exact hat (.sleep interval) rfl
    | resume turns => exact hat (.resume turns) rfl
    | begin n => exact hat (.begin n) (Activity.pauses_print _)
    | timeUp => exact hat .timeUp (Activity.pauses_print _)
    | finish n =>
      refine hat (.finish n) ?_
      cases x.1.oneShot
      · exact Activity.pauses_print _
      · rfl
  have hperm :=
    (List.flatMap_append_perm x.2 (fun k => (obey (ρ := fun _ : Nat => Unit) c x.1.oneShot k).1)
    fun k => (obey c x.1.oneShot k).2).map fun y : CycleStrand => (now + y.rest.pauses, y.tag)
  refine Eq.trans ?_ ((Multiset.coe_eq_coe.2 hperm).trans ?_)
  · simp [Crew.ends, Reaction.strands, follow]
  · rw [List.map_flatMap]
    simp only [hone, timed]
    rw [List.map_eq_flatMap]

section Timed
variable {now : Nat} {ks : List Schedule.Command}

theorem exists_of_mem_timed {x : Nat × Tag Nat} (h : x ∈ timed now ks) :
    ∃ k ∈ ks, x = (now + wait k, Tag.ofCommand k) := by
  obtain ⟨k, hk, rfl⟩ := List.mem_map.1 (Multiset.mem_coe.1 h)
  exact ⟨k, hk, rfl⟩

theorem intervals_timed (h : ∀ k ∈ ks, ∀ i, k ≠ .sleep i) : intervals (timed now ks) = 0 := by
  refine filterMap_eq_zero.2 fun x hx => ?_
  obtain ⟨k, hk, rfl⟩ := exists_of_mem_timed hx
  cases k with
  | sleep i => exact absurd rfl (h _ hk i)
  | _ => rfl

theorem parts_timed (h : ∀ k ∈ ks, ∀ n, k ≠ .begin n) : parts (timed now ks) = 0 := by
  refine parts_eq_zero.2 fun x hx => ?_
  obtain ⟨k, hk, rfl⟩ := exists_of_mem_timed hx
  cases k with
  | begin n => exact absurd rfl (h _ hk n)
  | _ => rfl

/-- Strands that begin now: what is prompt ends now, and none of them is a stop. -/
def Timely (now : Nat) (Q : Multiset (Nat × Tag Nat)) : Prop :=
  ∀ x ∈ Q, (x.2.prompt = true → x.1 ≤ now) ∧ x.2 ≠ .stop

theorem timely_timed (now : Nat) (ks : List Schedule.Command) : Timely now (timed now ks) := by
  intro x hx
  obtain ⟨k, -, rfl⟩ := exists_of_mem_timed hx
  cases k with
  | sleep i => exact ⟨nofun, nofun⟩
  | _ => exact ⟨fun _ => Nat.le_refl _, nofun⟩

end Timed

/-- No stop has been asked for, and the one that is to come is still to come. -/
def Undisturbed (T : Terms) (s : Schedule) (P : Multiset (Nat × Tag Nat)) : Prop :=
  s.stopping = false ∧ ∀ t, T.stop = some t → (T.start + t, .stop) ∈ P

/-- No more cycles begin: as many have begun as were to begin, and the time for it is over. -/
def Over (T : Terms) (now begun : Nat) : Prop := begun = T.cycles ∧ T.start + T.last ≤ now

/-- What a phase says of the time. -/
def Stands (T : Terms) (now : Nat) (s : Schedule) (P : Multiset (Nat × Tag Nat)) : Prop :=
  match s.phase with
  | .idle =>
    if s.started = none then now = T.start ∧ s.begun = 0 ∧ intervals P = 0 ∧ Undisturbed T s P
    else Over T now s.begun
  | .sleeping =>
    intervals P = {T.beginning (s.begun + 1)} ∧ T.beginning s.begun ≤ now ∧ Undisturbed T s P
  | .due => intervals P = 0 ∧ now = T.beginning (s.begun + 1) ∧ Undisturbed T s P
  | .roused | .draining => Over T now s.begun
  | .single => False

/-- A run is on time. -/
structure Punctual (T : Terms) (now : Nat) (s : Schedule) (P : Multiset (Nat × Tag Nat)) :
    Prop where
  frequency : s.frequency = T.frequency
  budget : s.maxTime = T.budget
  started : ∀ t, s.started = some t → t = T.start
  within : now ≤ T.returning
  most : s.begun ≤ T.most
  stops : ∀ x ∈ P, x.2 = .stop → ∃ t, T.stop = some t ∧ x.1 = T.start + t
  prompt : ∀ x ∈ P, x.2.prompt = true → x.1 ≤ now
  cycles : OnTime T now s.begun s.history (parts P)
  stands : Stands T now s P

variable {T : Terms} {now : Nat} {s : Schedule} {t : Tag Nat}

theorem Undisturbed.of_cons {x : Nat × Tag Nat} (h : Undisturbed T s (x ::ₘ P)) (hx : x.2 ≠ .stop)
    (Q : Multiset (Nat × Tag Nat)) : Undisturbed T s (Q + P) := by
  refine ⟨h.1, fun t ht => Multiset.mem_add.2 (.inr ?_)⟩
  rcases Multiset.mem_cons.1 (h.2 t ht) with heq | hmem
  · exact absurd (congrArg Prod.snd heq).symm hx
  · exact hmem

/-- Where the schedule stays as it is, strands that are no intervals may take the place of one that
is none. -/
theorem Stands.exchange {x : Nat × Tag Nat} (h : Stands T now s (x ::ₘ P))
    (hx : Tag.interval? x = none) (hstop : x.2 ≠ .stop) {Q : Multiset (Nat × Tag Nat)}
    (hQ : intervals Q = 0) {s' : Schedule} (hphase : s'.phase = s.phase)
    (hstarted : s'.started = s.started) (hbegun : s'.begun = s.begun)
    (hstopping : s'.stopping = s.stopping) : Stands T now s' (Q + P) := by
  have hundisturbed (hs : Undisturbed T s (x ::ₘ P)) : Undisturbed T s' (Q + P) := by
    obtain ⟨h₁, h₂⟩ := hs.of_cons hstop Q
    exact ⟨hstopping.trans h₁, h₂⟩
  simp only [Stands, hphase, hstarted, hbegun, intervals_add,
    hQ, zero_add, intervals_cons_of_none hx] at h ⊢
  cases hp : s.phase with
  | idle =>
    simp only [hp] at h ⊢
    split
    · next hnone =>
      simp only [hnone, if_true] at h
      exact ⟨h.1, h.2.1, h.2.2.1, hundisturbed h.2.2.2⟩
    · next hsome =>
      rw [if_neg hsome] at h
      exact h
  | sleeping =>
    simp only [hp] at h ⊢
    exact ⟨h.1, h.2.1, hundisturbed h.2.2⟩
  | due =>
    simp only [hp] at h ⊢
    exact ⟨h.1, h.2.1, hundisturbed h.2.2⟩
  | roused | draining => simpa only [hp] using h
  | single => simp only [hp] at h

namespace Punctual

/-- A strand ends, and others begin. -/
theorem turn (h : Punctual T now s ((now, t) ::ₘ P)) {s' : Schedule} {Q : Multiset (Nat × Tag Nat)}
    (hfrequency : s'.frequency = s.frequency) (hbudget : s'.maxTime = s.maxTime)
    (hstarted : ∀ t, s'.started = some t → t = T.start) (hmost : s'.begun ≤ T.most)
    (hQ : Timely now Q) (hcycles : OnTime T now s'.begun s'.history (parts (Q + P)))
    (hstands : Stands T now s' (Q + P)) :
    Punctual T now s' (Q + P) := by
  refine ⟨hfrequency.trans h.frequency, hbudget.trans h.budget,
    hstarted, h.within, hmost, ?_, ?_, hcycles,
    hstands⟩
  · intro x hx hstop
    rcases Multiset.mem_add.1 hx with hx | hx
    · exact absurd hstop (hQ x hx).2
    · exact h.stops x (Multiset.mem_cons_of_mem hx) hstop
  · intro x hx hprompt
    rcases Multiset.mem_add.1 hx with hx | hx
    · exact (hQ x hx).1 hprompt
    · exact h.prompt x (Multiset.mem_cons_of_mem hx) hprompt

theorem obeys (h : Punctual T now s ((now, t) ::ₘ P)) (ht : t.part? = none)
    {x : Schedule × List Schedule.Command} (hfrequency : x.1.frequency = s.frequency)
    (hbudget : x.1.maxTime = s.maxTime) (hstarted : ∀ t, x.1.started = some t → t = T.start)
    (hbegun : x.1.begun = s.begun) (hhistory : x.1.history = s.history)
    (hbegins : ∀ k ∈ x.2, ∀ n, k ≠ .begin n) (hstands : Stands T now x.1 (timed now x.2 + P)) :
    Punctual T now x.1 (timed now x.2 + P) := by
  refine h.turn hfrequency hbudget hstarted (hbegun ▸ h.most) (timely_timed now x.2) ?_ hstands
  have hcycles := h.cycles
  rw [parts_cons_of_none (by exact ht)] at hcycles
  rw [hbegun, hhistory, parts_add, parts_timed hbegins, zero_add]
  exact hcycles

/-- Time passes up to the end of a strand for which the run waits. -/
theorem time (h : Punctual T now s P) {later : Nat} (hle : now ≤ later)
    (hnext : ∀ x ∈ P, later ≤ x.1) (hwaits : (∃ x ∈ P, x.2.prompt = true) ∨
    s.phase = .sleeping ∨ s.phase = .draining ∧ parts P ≠ 0) :
    Punctual T later s P := by
  by_cases hprompt : ∃ x ∈ P, x.2.prompt = true
  · obtain ⟨x, hx, hxp⟩ := hprompt
    obtain rfl : later = now := Nat.le_antisymm (Nat.le_trans (hnext x hx) (h.prompt x hx hxp)) hle
    exact h
  have hparts : ∀ x ∈ parts P, later ≤ x.1 := by
    intro y hy
    obtain ⟨x, hx, hxy⟩ := (Multiset.mem_filterMap _ _).1 hy
    obtain ⟨k, -, rfl⟩ := Option.map_eq_some_iff.1 hxy
    exact hnext x hx
  have hstands := h.stands
  have hlater : later ≤ T.returning ∧ Stands T later s P := by
    rcases hwaits with hsome | hphase | ⟨hphase, hne⟩
    · exact absurd hsome hprompt
    · simp only [Stands, hphase] at hstands ⊢
      obtain ⟨hintervals, hbegan, hundisturbed⟩ := hstands
      refine ⟨?_, hintervals, Nat.le_trans hbegan hle, hundisturbed⟩
      have hend : later ≤ T.beginning (s.begun + 1) := le_of_intervals hintervals hnext
      exact Nat.le_trans (T.le_last h.most hend fun t ht => hnext _ (hundisturbed.2 t ht))
        T.last_le_returning
    · simp only [Stands, hphase] at hstands ⊢
      refine ⟨?_, hstands.1, Nat.le_trans hstands.2 hle⟩
      obtain ⟨y, hy⟩ := Multiset.exists_mem_of_ne_zero hne
      obtain ⟨h₁, h₂⟩ := h.cycles.numbered y hy
      rw [hstands.1] at h₂
      refine Nat.le_trans (hparts y hy) (Nat.le_trans ?_ (T.ending_le_returning h₁ h₂))
      rw [h.cycles.due y hy]
      exact T.due_le_ending y.2
  exact ⟨h.frequency, h.budget, h.started, hlater.1, h.most, h.stops,
    fun x hx hxp => absurd ⟨x, hx, hxp⟩ hprompt, h.cycles.time hle hparts, hlater.2⟩

theorem rest_eq {s : Schedule} (hfrequency : s.frequency = T.frequency)
    (hstopping : s.stopping = false) :
    s.rest = ({ s with phase := .sleeping }, [.sleep T.interval]) := by
  have hpos : (0 : Int) < s.frequency := by
    rw [hfrequency]
    exact_mod_cast T.frequency_pos
  have hinterval : s.interval = T.interval := by
    rw [Schedule.interval, hfrequency, Int.toNat_natCast]
    rfl
  have hgoes : ¬s.stopping = true := by simp [hstopping]
  rw [Schedule.rest, if_neg hgoes, if_pos hpos, hinterval]

theorem intervals_sleep (now i : Nat) :
    intervals (timed now [.sleep i] + P) = (now + i) ::ₘ intervals P := by
  rw [timed_cons, timed_nil, intervals_add]
  exact Multiset.singleton_add _ _

theorem run (h : Punctual T now s ((now, .run) ::ₘ P)) (hphase : s.phase = .idle)
    (hstarted : s.started = none) :
    Punctual T now (s.run now).1 (timed now (s.run now).2 + P) := by
  have hstands := h.stands
  simp only [Stands, hphase, hstarted, if_true] at hstands
  obtain ⟨hnow, hbegun, hintervals, hundisturbed⟩ := hstands
  rw [intervals_cons_of_none rfl] at hintervals
  have hne : ({ s with started := some now } : Schedule).oneShot = false := by
    have : T.frequency ≠ 0 := Nat.ne_of_gt T.frequency_pos
    simpa [Schedule.oneShot, h.frequency] using this
  have hrun : s.run now =
      ({ s with started := some now, phase := .sleeping }, [.sleep T.interval]) := by
    have hrest := rest_eq (s := { s with started := some now }) h.frequency hundisturbed.1
    simp only [Schedule.run, hne, Bool.false_eq_true, if_false]
    exact hrest
  rw [hrun]
  refine h.obeys rfl rfl rfl (fun t ht => ?_) rfl rfl (by simp)
    ⟨?_, ?_, hundisturbed.of_cons (by simp) _⟩
  · rw [← Option.some_inj.1 ht, hnow]
  · rw [intervals_sleep, hintervals, hbegun, hnow, Terms.beginning_succ]
    simp [Terms.beginning]
  · simp [Terms.beginning, hbegun, hnow]

theorem stop_of_over (h : Punctual T now s ((now, .stop) ::ₘ P)) (hphase : s.phase ≠ .sleeping)
    (hstands : Stands T now { s with stopping := true } P) :
    Punctual T now s.stop.1 (timed now s.stop.2 + P) := by
  have hstop : s.stop = ({ s with stopping := true }, []) := by
    cases hp : s.phase <;> simp_all [Schedule.stop]
  rw [hstop]
  refine h.obeys rfl rfl rfl h.started rfl rfl (by simp) ?_
  rw [timed_nil, zero_add]
  exact hstands

/-- A stop ends the wait for an interval that has not passed. -/
theorem stop (h : Punctual T now s ((now, .stop) ::ₘ P)) (hnext : ∀ x ∈ P, now ≤ x.1) :
    Punctual T now s.stop.1 (timed now s.stop.2 + P) := by
  obtain ⟨t, ht, hnow⟩ := h.stops _ (Multiset.mem_cons_self _ _) rfl
  have hnow : now = T.start + t := hnow
  have hstands := h.stands
  cases hphase : s.phase with
  | sleeping =>
    simp only [Stands, hphase] at hstands
    obtain ⟨hintervals, hbegan, -⟩ := hstands
    rw [intervals_cons_of_none rfl] at hintervals
    have hend : now ≤ T.beginning (s.begun + 1) := le_of_intervals hintervals hnext
    have hstop : s.stop = ({ s with stopping := true, phase := .roused }, [.resume 2]) := by
      simp [Schedule.stop, hphase]
    simp only [Terms.beginning] at hbegan hend
    obtain ⟨hcycles, hlast⟩ := T.eq_of_stop ht h.most (by omega) (by omega)
    rw [hstop]
    refine h.obeys rfl rfl rfl h.started rfl rfl (by simp) ⟨hcycles, ?_⟩
    rw [hlast, hnow]
  | due =>
    simp only [Stands, hphase] at hstands
    have hdue : now = T.start + (s.begun + 1) * T.interval := hstands.2.1
    refine absurd ?_ (T.stop_between t ht)
    have heq : t = (s.begun + 1) * T.interval := by omega
    rw [heq]
    exact Nat.dvd_mul_left _ _
  | idle =>
    cases hstarted : s.started with
    | none =>
      simp only [Stands, hphase, hstarted, if_true] at hstands
      refine absurd ?_ (T.stop_between t ht)
      have hzero : t = 0 := by
        have := hstands.1
        omega
      rw [hzero]
      exact Nat.dvd_zero _
    | some t₀ =>
      exact h.stop_of_over (by simp [hphase]) (by simpa [Stands, hphase, hstarted] using hstands)
  | roused | draining =>
    exact h.stop_of_over (by simp [hphase]) (by simpa [Stands, hphase] using hstands)
  | single => simp [Stands, hphase] at hstands

/-- After an interval that is waited for, a cycle is due. -/
theorem expire (h : Punctual T now s ((now, .interval) ::ₘ P)) :
    Punctual T now s.expire.1 (timed now s.expire.2 + P) := by
  have hstands := h.stands
  cases hphase : s.phase with
  | sleeping =>
    simp only [Stands, hphase] at hstands
    obtain ⟨hintervals, -, hundisturbed⟩ := hstands
    rw [intervals_cons_interval, eq_comm, Multiset.singleton_eq_cons_iff] at hintervals
    have hexpire : s.expire = ({ s with phase := .due }, [.resume 2]) := by
      simp [Schedule.expire, hphase]
    rw [hexpire]
    refine h.obeys rfl rfl rfl h.started rfl rfl (by simp)
      ⟨?_, hintervals.1.symm, hundisturbed.of_cons (by simp) _⟩
    rw [intervals_add, hintervals.2, intervals_timed (by simp)]
    rfl
  | due => simp [Stands, hphase] at hstands
  | idle =>
    have hexpire : s.expire = (s, []) := by simp [Schedule.expire, hphase]
    rw [hexpire]
    refine h.obeys rfl rfl rfl h.started rfl rfl (by simp) ?_
    cases hstarted : s.started with
    | none => simp [Stands, hphase, hstarted] at hstands
    | some t₀ => simpa [Stands, hphase, hstarted] using hstands
  | roused | draining =>
    have hexpire : s.expire = (s, []) := by simp [Schedule.expire, hphase]
    rw [hexpire]
    exact h.obeys rfl rfl rfl h.started rfl rfl (by simp) (by simpa [Stands, hphase] using hstands)
  | single => simp [Stands, hphase] at hstands

theorem stands_drain {s : Schedule} (hstarted : s.started ≠ none) (hover : Over T now s.begun)
    (Q : Multiset (Nat × Tag Nat)) : Stands T now s.drain.1 Q := by
  unfold Schedule.drain
  split
  · simpa [Stands, hstarted] using hover
  · exact hover

theorem drain_eq (s : Schedule) : ∃ phase commands, s.drain = ({ s with phase }, commands) ∧
    (∀ k ∈ commands, ∀ n, k ≠ .begin n) := by
  unfold Schedule.drain
  split
  · exact ⟨_, _, rfl, by simp⟩
  · exact ⟨_, _, rfl, by simp⟩

theorem drain (h : Punctual T now s ((now, .resume 0) ::ₘ P)) (hstarted : s.started ≠ none)
    (hover : Over T now s.begun) : Punctual T now s.drain.1 (timed now s.drain.2 + P) := by
  have hstands := stands_drain hstarted hover (timed now s.drain.2 + P)
  obtain ⟨phase, commands, hdrain, hbegins⟩ := drain_eq s
  rw [hdrain] at hstands ⊢
  exact h.obeys rfl rfl rfl h.started rfl rfl hbegins hstands

theorem overdue_iff (h : Punctual T now s P) (hstarted : s.started = some T.start)
    (hnow : now = T.beginning (s.begun + 1)) :
    s.overdue now = true ↔ T.budget * Clock.millisecond < (s.begun + 1) * T.interval := by
  have hne : T.budget ≠ 0 := Nat.ne_of_gt T.budget_pos
  have hpassed : (now : Int) - T.start = ((s.begun + 1) * T.interval : Nat) := by
    rw [hnow, Terms.beginning]
    push_cast
    omega
  rw [Schedule.overdue, hstarted]
  simp only [h.budget, hpassed]
  simp [hne]
  norm_cast

/-- At the end of an interval the time is up or another cycle begins. -/
theorem proceed_of_due (h : Punctual T now s P) (hstarted : s.started ≠ none)
    (hphase : s.phase = .due) :
    (T.budget * Clock.millisecond < (s.begun + 1) * T.interval ∧
      s.proceed now = (s.drain.1, .timeUp :: s.drain.2)) ∨
    (s.begun < T.most ∧
      s.proceed now =
        ({ s.launch with phase := .sleeping }, [.begin (s.begun + 1), .sleep T.interval])) := by
  have hstands := h.stands
  simp only [Stands, hphase] at hstands
  obtain ⟨-, hnow, hundisturbed⟩ := hstands
  obtain ⟨t, ht⟩ := Option.ne_none_iff_exists'.1 hstarted
  have hoverdue := h.overdue_iff (by rw [ht, h.started t ht]) hnow
  by_cases hover : T.budget * Clock.millisecond < (s.begun + 1) * T.interval
  · refine .inl ⟨hover, ?_⟩
    simp [Schedule.proceed, hphase, hoverdue.2 hover]
  · refine .inr ⟨T.lt_most (Nat.le_of_not_lt hover), ?_⟩
    have hnot : s.overdue now = false := by
      rw [Bool.eq_false_iff]
      exact fun hd => hover (hoverdue.1 hd)
    have hrest := rest_eq (s := s.launch) h.frequency hundisturbed.1
    simp only [Schedule.proceed, hphase, hnot, Bool.false_eq_true, if_false]
    rw [hrest]
    rfl

theorem begin_or_end (h : Punctual T now s ((now, .resume 0) ::ₘ P)) (hnext : ∀ x ∈ P, now ≤ x.1)
    (hstarted : s.started ≠ none) (hphase : s.phase = .due) :
    Punctual T now (s.proceed now).1 (timed now (s.proceed now).2 + P) := by
  have hstands := h.stands
  simp only [Stands, hphase] at hstands
  obtain ⟨hintervals, hnow, hundisturbed⟩ := hstands
  rw [intervals_cons_of_none rfl] at hintervals
  rcases h.proceed_of_due hstarted hphase with ⟨hover, hproceed⟩ | ⟨hmost, hproceed⟩
  · have hstop : ∀ t, T.stop = some t → (s.begun + 1) * T.interval ≤ t := by
      intro t ht
      have hmem : (T.start + t, Tag.stop) ∈ P := by
        rcases Multiset.mem_cons.1 (hundisturbed.2 t ht) with heq | hmem
        · cases congrArg Prod.snd heq
        · exact hmem
      have hle : now ≤ T.start + t := hnext _ hmem
      rw [hnow, Terms.beginning] at hle
      omega
    obtain ⟨hcycles, hlast⟩ := T.eq_of_over_budget h.most hover hstop
    have hended : Over T now s.begun := by
      refine ⟨hcycles, ?_⟩
      rw [hlast, hnow, Terms.beginning]
    have hdrained := stands_drain hstarted hended (timed now (.timeUp :: s.drain.2) + P)
    obtain ⟨phase, commands, hdrain, hbegins⟩ := drain_eq s
    rw [hproceed]
    rw [hdrain] at hdrained ⊢
    exact h.obeys rfl rfl rfl h.started rfl rfl (List.forall_mem_cons.2 ⟨by simp, hbegins⟩) hdrained
  · have hparts : parts (timed now [.begin (s.begun + 1), .sleep T.interval] + P) =
        (now, s.begun + 1, .opening) ::ₘ parts P := by
      rw [timed_cons, Multiset.cons_add, parts_cons_of_some rfl,
        parts_add, parts_timed (by simp), zero_add]
      rfl
    have hcycles := h.cycles
    rw [parts_cons_of_none rfl] at hcycles
    rw [hproceed]
    refine h.turn rfl rfl h.started hmost (timely_timed now _) ?_ ⟨?_, ?_, ?_⟩
    · rw [hparts]
      exact hcycles.launch hnow
    · show intervals (timed now [.begin (s.begun + 1), .sleep T.interval] + P) =
        {T.beginning (s.begun + 1 + 1)}
      rw [timed_cons, Multiset.cons_add, intervals_cons_of_none rfl, intervals_sleep, hintervals,
        T.beginning_succ, ← hnow]
      rfl
    · exact Nat.le_of_eq hnow.symm
    · exact hundisturbed.of_cons (by simp) _

/-- The run goes on: at the end of an interval another cycle begins or the time is up, and after a
stop or the last cycle the run ends. -/
theorem proceed (h : Punctual T now s ((now, .resume 0) ::ₘ P)) (hnext : ∀ x ∈ P, now ≤ x.1)
    (hstarted : s.started ≠ none) (hphase : s.phase ≠ .idle) :
    Punctual T now (s.proceed now).1 (timed now (s.proceed now).2 + P) := by
  have hstands := h.stands
  cases hp : s.phase with
  | idle => exact absurd hp hphase
  | single => simp [Stands, hp] at hstands
  | sleeping =>
    have hproceed : s.proceed now = (s, []) := by simp [Schedule.proceed, hp]
    rw [hproceed]
    exact h.obeys rfl rfl rfl h.started rfl rfl (by simp)
      (hstands.exchange rfl (by simp) rfl rfl rfl rfl rfl)
  | roused | draining =>
    have hproceed : s.proceed now = s.drain := by simp [Schedule.proceed, hp]
    rw [hproceed]
    exact h.drain hstarted (by simpa [Stands, hp] using hstands)
  | due => exact h.begin_or_end hnext hstarted hp

theorem opens {n : Nat} (h : Punctual T now s ((now, .opening n) ::ₘ P)) :
    Punctual T now (s.note now n true) ({(now + T.duration n, .inner n)} + P) := by
  have hcycles := h.cycles
  rw [parts_cons_of_some rfl] at hcycles
  refine h.turn rfl rfl h.started h.most ?_ ?_ (h.stands.exchange rfl (by simp) rfl rfl rfl rfl rfl)
  · intro x hx
    rw [Multiset.mem_singleton.1 hx]
    exact ⟨nofun, nofun⟩
  · rw [Multiset.singleton_add, parts_cons_of_some rfl]
    exact hcycles.opens _

theorem ends {n : Nat} (h : Punctual T now s ((now, .inner n) ::ₘ P)) :
    Punctual T now s ({(now, .closing n)} + P) := by
  have hcycles := h.cycles
  rw [parts_cons_of_some rfl] at hcycles
  refine h.turn rfl rfl h.started h.most ?_ ?_ (h.stands.exchange rfl (by simp) rfl rfl rfl rfl rfl)
  · intro x hx
    rw [Multiset.mem_singleton.1 hx]
    exact ⟨fun _ => Nat.le_refl _, nofun⟩
  · rw [Multiset.singleton_add, parts_cons_of_some rfl]
    exact hcycles.ends

theorem endCycle_eq (s : Schedule) (now n : Nat) : ∃ inFlight ended drained commands,
    (s.note now n false).endCycle =
      ({ s with inFlight, ended, drained, history := ⟨now, false, n, s.inFlight⟩ :: s.history },
        commands) ∧
    ∀ k ∈ commands, ∃ turns, k = .resume turns := by
  have hone : ∀ k ∈ [Schedule.Command.resume 0], ∃ turns, k = .resume turns :=
    fun k hk => ⟨0, List.mem_singleton.1 hk⟩
  simp only [Schedule.endCycle, Schedule.note]
  split
  · exact ⟨_, _, _, _, rfl, fun k hk => hone k (List.mem_ite_nil_right.1 hk).2⟩
  · exact ⟨_, _, _, _, rfl, hone⟩
  · exact ⟨_, _, _, _, rfl, by simp⟩

/-- A cycle ends, whatever it came to. -/
theorem closes {n : Nat} (h : Punctual T now s ((now, .closing n) ::ₘ P)) :
    Punctual T now (s.note now n false).endCycle.1
      (timed now (s.note now n false).endCycle.2 + P) := by
  have hcycles := h.cycles
  rw [parts_cons_of_some rfl] at hcycles
  obtain ⟨inFlight, ended, drained, commands, heq, hresumes⟩ := endCycle_eq s now n
  have hsleep : ∀ k ∈ commands, ∀ i, k ≠ .sleep i := by
    intro k hk i
    obtain ⟨turns, rfl⟩ := hresumes k hk
    exact nofun
  have hbegin : ∀ k ∈ commands, ∀ m, k ≠ .begin m := by
    intro k hk m
    obtain ⟨turns, rfl⟩ := hresumes k hk
    exact nofun
  rw [heq]
  refine h.turn rfl rfl h.started h.most (timely_timed now commands) ?_
    (h.stands.exchange rfl (by simp) (intervals_timed hsleep) rfl rfl rfl rfl)
  rw [parts_add, parts_timed hbegin, zero_add]
  exact hcycles.closes _

theorem passes {Q : Multiset (Nat × Tag Nat)} (h : Punctual T now s ((now, t) ::ₘ P))
    (ht : t.part? = none) (hinterval : Tag.interval? (now, t) = none)
    (hstop : t ≠ .stop) (hQ : Timely now Q) (hparts : parts Q = 0) (hintervals : intervals Q = 0) :
    Punctual T now s (Q + P) := by
  have hcycles := h.cycles
  rw [parts_cons_of_none (by exact ht)] at hcycles
  refine h.turn rfl rfl h.started h.most hQ ?_
    (h.stands.exchange hinterval hstop hintervals rfl rfl rfl rfl)
  rwa [parts_add, hparts, zero_add]

end Punctual
end TestWorker.Shift
