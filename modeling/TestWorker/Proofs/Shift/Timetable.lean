import TestWorker.Proofs.Crew.Calendar
import TestWorker.Proofs.Shift.Drain

namespace TestWorker.Shift

/-- What a run is told, and what its cycles do. Times are in grains but for the frequency and the
budget, which are in milliseconds. -/
structure Terms where
  start : Nat
  frequency : Nat
  budget : Nat
  cycle : Nat → Rehearsal.Cycle
  /-- A stop that is asked for: how long after the start, and what is printed then. -/
  halt : Option (Nat × List Line)
  frequency_pos : 0 < frequency
  budget_pos : 0 < budget
  /-- Cycles take their time and may fail, but ask for no stop. -/
  unstopped : ∀ n, (cycle n).stops = false
  /-- A stop does not come together with the end of an interval. -/
  between : ∀ x ∈ halt, ¬frequency * Clock.millisecond ∣ x.1

namespace Terms

variable (T : Terms)

def duration (n : Nat) : Nat := (T.cycle n).duration

def stop : Option Nat := T.halt.map Prod.fst

theorem stop_between (s : Nat) (h : T.stop = some s) : ¬T.frequency * Clock.millisecond ∣ s := by
  obtain ⟨x, hx, rfl⟩ := Option.map_eq_some_iff.1 h
  exact T.between x hx

def interval : Nat := T.frequency * Clock.millisecond

/-- How many cycles begin without a stop. -/
def most : Nat := T.budget / T.frequency

def cycles : Nat :=
  match T.stop with
  | none => T.most
  | some s => min (T.budget * Clock.millisecond) s / T.interval

/-- When, after the start, the run stops to begin cycles. -/
def last : Nat :=
  match T.stop with
  | none => (T.most + 1) * T.interval
  | some s => min s ((T.most + 1) * T.interval)

def beginning (k : Nat) : Nat := T.start + k * T.interval

def ending (k : Nat) : Nat := T.beginning k + T.duration k

/-- When the last of so many cycles ends, after the start. -/
def lastEnd (interval : Nat) (duration : Nat → Nat) (n : Nat) : Nat :=
  (Finset.range n).sup fun k => (k + 1) * interval + duration (k + 1)

def returning : Nat := T.start + max T.last (lastEnd T.interval T.duration T.cycles)

theorem interval_pos : 0 < T.interval := Nat.mul_pos T.frequency_pos (by decide)

theorem beginning_succ (k : Nat) : T.beginning (k + 1) = T.beginning k + T.interval := by
  simp only [beginning, Nat.succ_mul, Nat.add_assoc]

theorem beginning_lt_succ (k : Nat) : T.beginning k < T.beginning (k + 1) := by
  rw [beginning_succ]
  exact Nat.lt_add_of_pos_right T.interval_pos

theorem most_eq : T.most = T.budget * Clock.millisecond / T.interval := by
  rw [most, interval, Nat.mul_div_mul_right _ _ (by decide)]

theorem ending_le_returning {k : Nat} (h₁ : 1 ≤ k) (h₂ : k ≤ T.cycles) :
    T.ending k ≤ T.returning := by
  obtain ⟨j, rfl⟩ : ∃ j, k = j + 1 := ⟨k - 1, by omega⟩
  have hle : (j + 1) * T.interval + T.duration (j + 1) ≤ lastEnd T.interval T.duration T.cycles :=
    Finset.le_sup (f := fun k => (k + 1) * T.interval + T.duration (k + 1)) (Finset.mem_range.2 h₂)
  rw [ending, beginning, returning, Nat.add_assoc]
  exact Nat.add_le_add_left (Nat.le_trans hle (Nat.le_max_right _ _)) _

theorem last_le_returning : T.start + T.last ≤ T.returning :=
  Nat.add_le_add_left (Nat.le_max_left _ _) _

theorem le_last {n now : Nat} (hn : n ≤ T.most) (h : now ≤ T.beginning (n + 1))
    (hstop : ∀ s, T.stop = some s → now ≤ T.start + s) : now ≤ T.start + T.last := by
  have hend : T.beginning (n + 1) ≤ T.start + (T.most + 1) * T.interval :=
    Nat.add_le_add_left (Nat.mul_le_mul_right _ (Nat.succ_le_succ hn)) _
  rw [last]
  cases hs : T.stop with
  | none => exact Nat.le_trans h hend
  | some s =>
    have := hstop s hs
    simp only
    omega

theorem returning_le {now : Nat} (hlast : T.start + T.last ≤ now)
    (hends : ∀ k, 1 ≤ k → k ≤ T.cycles → T.ending k ≤ now) : T.returning ≤ now := by
  have hstart : T.start ≤ now := Nat.le_trans (Nat.le_add_right _ _) hlast
  have hsup : lastEnd T.interval T.duration T.cycles ≤ now - T.start := by
    refine Finset.sup_le fun k hk => ?_
    have := hends (k + 1) (Nat.le_add_left 1 k) (Finset.mem_range.1 hk)
    simp only [ending, beginning] at this
    omega
  rw [returning]
  omega

/-- Cycles with the times at which they begin, the latest first. -/
def timetable : Nat → List (Nat × Nat)
  | 0 => []
  | n + 1 => (n + 1, T.beginning (n + 1)) :: timetable n

theorem lt_most {n : Nat} (h : (n + 1) * T.interval ≤ T.budget * Clock.millisecond) :
    n < T.most := by
  rw [most_eq]
  exact (Nat.le_div_iff_mul_le T.interval_pos).2 h

/-- Where the next interval ends past the budget, that is when the run stops to begin cycles. -/
theorem eq_of_over_budget {n : Nat} (hn : n ≤ T.most)
    (h : T.budget * Clock.millisecond < (n + 1) * T.interval)
    (hstop : ∀ s, T.stop = some s → (n + 1) * T.interval ≤ s) :
    n = T.cycles ∧ T.last = (n + 1) * T.interval := by
  have hmost : n = T.most := by
    refine Nat.le_antisymm hn ?_
    rw [most_eq]
    exact Nat.le_of_lt_succ ((Nat.div_lt_iff_lt_mul T.interval_pos).2 h)
  cases hs : T.stop with
  | none => exact ⟨by simp only [cycles, hs, hmost], by simp only [last, hs, hmost]⟩
  | some s =>
    have hle := hstop s hs
    constructor
    · rw [cycles, hs]
      simp only
      rw [Nat.min_eq_left (Nat.le_of_lt (Nat.lt_of_lt_of_le h hle)), ← most_eq, hmost]
    · rw [last, hs, ← hmost]
      exact Nat.min_eq_right hle

/-- Where a stop comes while an interval passes, that is when the run stops to begin cycles. -/
theorem eq_of_stop {n s : Nat} (hs : T.stop = some s) (hn : n ≤ T.most) (h₁ : n * T.interval ≤ s)
    (h₂ : s ≤ (n + 1) * T.interval) : n = T.cycles ∧ T.last = s := by
  have hlt : s < (n + 1) * T.interval := by
    refine Nat.lt_of_le_of_ne h₂ fun heq => T.stop_between s hs ?_
    rw [heq]
    exact Nat.dvd_mul_left _ _
  constructor
  · rw [cycles, hs]
    refine (Nat.div_eq_of_lt_le (Nat.le_min.2 ⟨?_, h₁⟩) ?_).symm
    · rw [most_eq] at hn
      exact (Nat.le_div_iff_mul_le T.interval_pos).1 hn
    · exact Nat.lt_of_le_of_lt (Nat.min_le_right _ _) hlt
  · rw [last, hs]
    refine Nat.min_eq_left (Nat.le_trans h₂ ?_)
    exact Nat.mul_le_mul_right _ (Nat.succ_le_succ hn)

end Terms

/-- How far a cycle has come that has begun and not ended. -/
inductive Part where
  | opening
  | running
  | closing
  deriving DecidableEq

/-- When a strand of a cycle ends. -/
def Terms.due (T : Terms) (x : Nat × Part) : Nat :=
  match x.2 with
  | .opening => T.beginning x.1
  | .running | .closing => T.ending x.1

theorem Terms.due_le_ending (T : Terms) (x : Nat × Part) : T.due x ≤ T.ending x.1 := by
  unfold Terms.due
  split
  · exact Nat.le_add_right _ _
  · exact Nat.le_refl _
  · exact Nat.le_refl _

def begins (history : List Schedule.Event) : List (Nat × Nat) :=
  (history.filter (·.begins)).map fun e => (e.cycle, e.time)

def unopened (zs : Multiset (Nat × Nat × Part)) : Multiset (Nat × Nat × Part) :=
  zs.filter fun x => x.2.2 = .opening

@[simp] theorem unopened_zero : unopened 0 = 0 := rfl

@[simp] theorem unopened_cons_opening (now k : Nat) (zs : Multiset (Nat × Nat × Part)) :
    unopened ((now, k, .opening) ::ₘ zs) = (now, k, .opening) ::ₘ unopened zs :=
  Multiset.filter_cons_of_pos _ rfl

@[simp] theorem unopened_cons_running (now k : Nat) (zs : Multiset (Nat × Nat × Part)) :
    unopened ((now, k, .running) ::ₘ zs) = unopened zs :=
  Multiset.filter_cons_of_neg _ nofun

@[simp] theorem unopened_cons_closing (now k : Nat) (zs : Multiset (Nat × Nat × Part)) :
    unopened ((now, k, .closing) ::ₘ zs) = unopened zs :=
  Multiset.filter_cons_of_neg _ nofun

/-- Cycles are on time: each that has begun is on its way or has ended when it was to end, and each
was written down when it began. -/
structure OnTime (T : Terms) (now begun : Nat) (history : List Schedule.Event)
    (zs : Multiset (Nat × Nat × Part)) : Prop where
  due : ∀ x ∈ zs, x.1 = T.due x.2
  numbered : ∀ x ∈ zs, 1 ≤ x.2.1 ∧ x.2.1 ≤ begun
  gone : ∀ k, 1 ≤ k → k ≤ begun → (∃ x ∈ zs, x.2.1 = k) ∨ T.ending k ≤ now
  written : unopened zs = 0 ∧ begins history = T.timetable begun ∨
    ∃ n, begun = n + 1 ∧ now = T.beginning begun ∧ unopened zs = {(now, begun, .opening)} ∧
      begins history = T.timetable n

namespace OnTime

variable {T : Terms} {now begun k : Nat} {history : List Schedule.Event}
  {zs : Multiset (Nat × Nat × Part)}

theorem start (T : Terms) (now : Nat) : OnTime T now 0 [] 0 :=
  ⟨fun x hx => absurd hx (Multiset.notMem_zero x), fun x hx => absurd hx (Multiset.notMem_zero x),
    fun k h₁ h₂ => by omega, .inl ⟨rfl, rfl⟩⟩

theorem time (h : OnTime T now begun history zs) {later : Nat} (hle : now ≤ later)
    (hnext : ∀ x ∈ zs, later ≤ x.1) : OnTime T later begun history zs := by
  refine ⟨h.due, h.numbered, fun k h₁ h₂ => ?_, ?_⟩
  · exact (h.gone k h₁ h₂).imp_right fun hk => Nat.le_trans hk hle
  · rcases h.written with hall | ⟨n, hn, hnow, hzs, hhistory⟩
    · exact .inl hall
    · have hmem : (now, begun, Part.opening) ∈ unopened zs := by
        rw [hzs]
        exact Multiset.mem_singleton_self _
      obtain rfl : later = now := Nat.le_antisymm (hnext _ (Multiset.mem_of_mem_filter hmem)) hle
      exact .inr ⟨n, hn, hnow, hzs, hhistory⟩

/-- A cycle begins at the end of an interval. -/
theorem launch (h : OnTime T now begun history zs) (hnow : now = T.beginning (begun + 1)) :
    OnTime T now (begun + 1) history ((now, begun + 1, .opening) ::ₘ zs) := by
  -- the cycle before has been written down: it began an interval ago
  have hwritten : unopened zs = 0 ∧ begins history = T.timetable begun := by
    rcases h.written with hall | ⟨n, -, hbefore, -, -⟩
    · exact hall
    · have := T.beginning_lt_succ begun
      omega
  refine ⟨?_, ?_, fun k h₁ h₂ => ?_, .inr ⟨begun, rfl, hnow, ?_, hwritten.2⟩⟩
  · exact Multiset.forall_mem_cons.2 ⟨hnow, h.due⟩
  · refine Multiset.forall_mem_cons.2 ⟨⟨Nat.le_add_left 1 begun, Nat.le_refl _⟩, fun x hx => ?_⟩
    have := h.numbered x hx
    omega
  · by_cases hk : k = begun + 1
    · exact .inl ⟨_, Multiset.mem_cons_self _ _, hk.symm⟩
    · refine (h.gone k h₁ (by omega)).imp_left ?_
      rintro ⟨x, hx, hxk⟩
      exact ⟨x, Multiset.mem_cons_of_mem hx, hxk⟩
  · rw [unopened_cons_opening, hwritten.1]
    rfl

theorem exchange {x y : Nat × Nat × Part} (h : OnTime T now begun history (x ::ₘ zs))
    (hy : y.1 = T.due y.2) (hcycle : y.2.1 = x.2.1) {history' : List Schedule.Event}
    (hwritten : unopened (y ::ₘ zs) = 0 ∧ begins history' = T.timetable begun ∨
      ∃ n, begun = n + 1 ∧ now = T.beginning begun ∧
        unopened (y ::ₘ zs) = {(now, begun, .opening)} ∧ begins history' = T.timetable n) :
    OnTime T now begun history' (y ::ₘ zs) := by
  obtain ⟨hx, hzs⟩ := Multiset.forall_mem_cons.1 h.numbered
  refine ⟨Multiset.forall_mem_cons.2 ⟨hy, (Multiset.forall_mem_cons.1 h.due).2⟩,
    Multiset.forall_mem_cons.2 ⟨hcycle ▸ hx, hzs⟩, fun k h₁ h₂ => ?_, hwritten⟩
  refine (h.gone k h₁ h₂).imp_left ?_
  rintro ⟨z, hz, rfl⟩
  rcases Multiset.mem_cons.1 hz with rfl | hz
  · exact ⟨y, Multiset.mem_cons_self _ _, hcycle⟩
  · exact ⟨z, Multiset.mem_cons_of_mem hz, rfl⟩

theorem opens (h : OnTime T now begun history ((now, k, .opening) ::ₘ zs)) (inFlight : Int) :
    OnTime T now begun (⟨now, true, k, inFlight⟩ :: history)
      ((now + T.duration k, k, .running) ::ₘ zs) := by
  have hnow : now = T.beginning k := h.due _ (Multiset.mem_cons_self _ _)
  refine h.exchange (y := (now + T.duration k, k, .running)) ?_ rfl (.inl ?_)
  · simp only [Terms.due, Terms.ending, hnow]
  · rcases h.written with ⟨hnone, -⟩ | ⟨n, hn, -, hone, hhistory⟩
    · simp at hnone
    · rw [unopened_cons_opening, eq_comm, Multiset.singleton_eq_cons_iff, Prod.mk.injEq,
        Prod.mk.injEq] at hone
      obtain ⟨⟨-, rfl, -⟩, hzs⟩ := hone
      rw [unopened_cons_running, hn, Terms.timetable, ← hn, ← hnow]
      exact ⟨hzs, congrArg _ hhistory⟩

theorem ends (h : OnTime T now begun history ((now, k, .running) ::ₘ zs)) :
    OnTime T now begun history ((now, k, .closing) ::ₘ zs) := by
  have hnow : now = T.ending k := h.due _ (Multiset.mem_cons_self _ _)
  have hwritten := h.written
  rw [unopened_cons_running] at hwritten
  refine h.exchange (y := (now, k, .closing)) hnow rfl ?_
  rw [unopened_cons_closing]
  exact hwritten

theorem closes (h : OnTime T now begun history ((now, k, .closing) ::ₘ zs)) (inFlight : Int) :
    OnTime T now begun (⟨now, false, k, inFlight⟩ :: history) zs := by
  have hnow : now = T.ending k := h.due _ (Multiset.mem_cons_self _ _)
  have hwritten := h.written
  rw [unopened_cons_closing] at hwritten
  refine ⟨(Multiset.forall_mem_cons.1 h.due).2, (Multiset.forall_mem_cons.1 h.numbered).2,
    fun j h₁ h₂ => ?_, hwritten⟩
  rcases h.gone j h₁ h₂ with ⟨z, hz, rfl⟩ | hj
  · rcases Multiset.mem_cons.1 hz with rfl | hz
    · exact .inr (Nat.le_of_eq hnow.symm)
    · exact .inl ⟨z, hz, rfl⟩
  · exact .inr hj

end OnTime
end TestWorker.Shift
