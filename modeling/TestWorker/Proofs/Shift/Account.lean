import TestWorker.Proofs.Crew
import TestWorker.Shift

namespace TestWorker

namespace Shift
variable {τ S : Type} {ρ : τ → Type}

/-- The strands with which a run begins, goes on and ends. -/
inductive Control where
  | run
  | resume
  | farewell (cycles : Nat)
  deriving DecidableEq

namespace Tag

def control? : Tag τ → Option Control
  | .run => some .run
  | .resume _ => some .resume
  | .farewell n => some (.farewell n)
  | _ => none

def opening? : Tag τ → Option Nat
  | .opening n => some n
  | _ => none

def closing? : Tag τ → Option Nat
  | .closing n => some n
  | _ => none

def ofCommand : Schedule.Command → Tag τ
  | .sleep _ => .interval
  | .begin n => .opening n
  | .resume turns => .resume turns
  | .timeUp => .notice
  | .finish n => .farewell n

end Tag

abbrev controls (ts : Multiset (Tag τ)) : Multiset Control := ts.filterMap Tag.control?

abbrev openings (ts : Multiset (Tag τ)) : Multiset Nat := ts.filterMap Tag.opening?

abbrev closings (ts : Multiset (Tag τ)) : Multiset Nat := ts.filterMap Tag.closing?

def called (commands : List Schedule.Command) : Multiset (Tag τ) :=
  (commands.map Tag.ofCommand : List (Tag τ))

@[simp] theorem called_nil : called [] = (0 : Multiset (Tag τ)) := rfl

@[simp] theorem called_cons (k : Schedule.Command) (ks : List Schedule.Command) :
    called (k :: ks) = (Tag.ofCommand k : Tag τ) ::ₘ called ks := rfl

theorem tag_obey (c : Console) (oneShot : Bool) (k : Schedule.Command) :
    ((obey (ρ := ρ) c oneShot k).1 ++ (obey (ρ := ρ) c oneShot k).2).map (·.tag) =
      [(Tag.ofCommand k : Tag τ)] := by
  cases k <;> rfl

theorem tags_follow (c : Console) (s : Shift S) (x : Schedule × List Schedule.Command) :
    (follow (ρ := ρ) c s x).tags = called x.2 := by
  have hperm := (List.flatMap_append_perm x.2 (fun k => (obey (ρ := ρ) c x.1.oneShot k).1)
    fun k => (obey c x.1.oneShot k).2).map (·.tag)
  refine Eq.trans ?_ ((Multiset.coe_eq_coe.2 hperm).trans ?_)
  · simp [Reaction.tags, Reaction.strands, follow]
  rw [List.map_flatMap]
  simp only [tag_obey, called]
  rw [List.map_eq_flatMap]

variable {s : Shift S}

def numbers (n : Nat) : Multiset Nat := (Multiset.range n).map (· + 1)

@[simp] theorem numbers_succ (n : Nat) : numbers (n + 1) = (n + 1) ::ₘ numbers n := by
  simp [numbers, Multiset.range_succ]

@[simp] theorem card_numbers (n : Nat) : (numbers n).card = n := by simp [numbers]

theorem nodup_numbers (n : Nat) : (numbers n).Nodup :=
  (Multiset.nodup_range n).map fun _ _ h => Nat.succ_injective h

/-- What the run waits for, apart from an interval and the ends of cycles. -/
def awaited (s : Shift S) : Option Control :=
  match s.schedule.phase with
  | .idle =>
    if s.schedule.started = none then some .run
    else if s.results = [] then some (.farewell s.schedule.begun)
    else none
  | .sleeping => none
  | .due | .roused => some .resume
  | .draining => if s.schedule.drained then some .resume else none
  | .single => if s.schedule.inFlight = 0 then some .resume else none

theorem toList_eq_cons {α : Type} {o : Option α} {a : α} {m : Multiset α}
    (h : (o.toList : Multiset α) = a ::ₘ m) : o = some a ∧ m = 0 := by
  cases o with
  | none => exact absurd h Multiset.zero_ne_cons
  | some b =>
    obtain ⟨rfl, rfl⟩ := Multiset.singleton_eq_cons_iff _ |>.1 h
    exact ⟨rfl, rfl⟩

theorem awaited_run (h : awaited s = some .run) :
    s.schedule.phase = .idle ∧ s.schedule.started = none := by
  unfold awaited at h
  grind

theorem awaited_resume (h : awaited s = some .resume) :
    s.schedule.phase = .due ∨ s.schedule.phase = .roused ∨
      s.schedule.phase = .draining ∧ s.schedule.drained = true ∨
      s.schedule.phase = .single ∧ s.schedule.inFlight = 0 := by
  unfold awaited at h
  grind

theorem awaited_farewell {n : Nat} (h : awaited s = some (.farewell n)) :
    s.schedule.phase = .idle ∧ s.schedule.started ≠ none ∧ s.results = [] ∧
      n = s.schedule.begun := by
  unfold awaited at h
  grind

/-- What a phase means for the counters, the results and the interval. -/
def Suits (s : Shift S) (ts : Multiset (Tag τ)) : Prop :=
  match s.schedule.phase with
  | .idle =>
    if s.schedule.started = none then s.schedule.begun = 0 ∧ s.results = []
    else s.schedule.inFlight = 0 ∧ (s.results = [] ∨ s.results = [s.schedule.begun]) ∧
      (s.schedule.frequency = 0 → s.schedule.begun = 1)
  | .sleeping =>
    s.schedule.started ≠ none ∧ s.results = [] ∧ s.schedule.frequency ≠ 0 ∧
      s.schedule.stopping = false ∧ .interval ∈ ts
  | .due | .roused | .draining =>
    s.schedule.started ≠ none ∧ s.results = [] ∧ s.schedule.frequency ≠ 0
  | .single =>
    s.schedule.started ≠ none ∧ s.results = [] ∧ s.schedule.frequency = 0 ∧ s.schedule.begun = 1

/-- The counters of a schedule, against the cycles begun and ended. -/
structure Counts (frequency : Int) (begun ended : Multiset Nat) (s : Schedule) : Prop where
  frequency : s.frequency = frequency
  begun : begun = numbers s.begun
  ended : ended.card = s.ended
  inFlight : s.inFlight = s.begun - s.ended
  drained : s.drained = true ↔ s.inFlight = 0

theorem Counts.launch {frequency : Int} {begun ended : Multiset Nat} {s : Schedule}
    (h : Counts frequency begun ended s) (hle : ended.card ≤ begun.card) :
    Counts frequency ((s.begun + 1) ::ₘ begun) ended s.launch := by
  obtain ⟨hfrequency, hbegun, hended, hflight, -⟩ := h
  have hcard : begun.card = s.begun := by simp [hbegun]
  refine ⟨hfrequency, ?_, hended, ?_, ?_⟩
  · simp [Schedule.launch, hbegun]
  · simp only [Schedule.launch]
    omega
  · simp only [Schedule.launch]
    simp
    omega

/-- The counters and the phase of a schedule, against the strands that are left too. -/
structure Account (frequency : Int) (begun ended : Multiset Nat)
    (s : Shift S) (ts : Multiset (Tag τ)) : Prop
    extends Counts frequency begun ended s.schedule where
  awaited : ((awaited s).toList : Multiset Control) = controls ts
  suits : Suits s ts

namespace Account

variable {frequency : Int} {begun ended : Multiset Nat} {ts : Multiset (Tag τ)} {now : Instant}

/-- The account after commands have been obeyed. -/
def Obeyed (frequency : Int) (begun ended : Multiset Nat) (s : Shift S) (ts : Multiset (Tag τ))
    (x : Schedule × List Schedule.Command) : Prop :=
  Account frequency (openings (called (τ := τ) x.2) + begun) ended { s with schedule := x.1 }
    (called x.2 + ts)

theorem obeyed {x : Schedule × List Schedule.Command} (hcounts : Counts frequency begun ended x.1)
    (hopenings : openings (called (τ := τ) x.2) = 0)
    (hawaited : ((Shift.awaited { s with schedule := x.1 }).toList : Multiset Control) =
      controls (called x.2 + ts))
    (hsuits : Suits { s with schedule := x.1 } (called x.2 + ts)) :
    Obeyed frequency begun ended s ts x := by
  rw [Obeyed, hopenings, zero_add]
  exact ⟨hcounts, hawaited, hsuits⟩

theorem exchange {ts' : Multiset (Tag τ)} (h : Account frequency begun ended s ts)
    (hcontrols : controls ts' = controls ts) (hinterval : .interval ∈ ts → .interval ∈ ts') :
    Account frequency begun ended s ts' := by
  refine ⟨h.toCounts, h.awaited.trans hcontrols.symm, ?_⟩
  have hsuits := h.suits
  unfold Suits at hsuits ⊢
  cases hphase : s.schedule.phase <;> simp_all

theorem obeyed_begin {x : Schedule × List Schedule.Command} {n : Nat}
    (h : Obeyed frequency (n ::ₘ begun) ended s (.opening n ::ₘ ts) x) :
    Obeyed frequency begun ended s ts (x.1, .begin n :: x.2) := by
  simpa [Obeyed, Tag.ofCommand, Tag.opening?] using h

theorem obeyed_timeUp {x : Schedule × List Schedule.Command}
    (h : Obeyed frequency begun ended s (.notice ::ₘ ts) x) :
    Obeyed frequency begun ended s ts (x.1, .timeUp :: x.2) := by
  simpa [Obeyed, Tag.ofCommand, Tag.opening?] using h

theorem drain {x : Schedule} (hx : Counts frequency begun ended x) (hstarted : x.started ≠ none)
    (hresults : s.results = []) (hfrequency : frequency ≠ 0) (hcontrols : controls ts = 0) :
    Obeyed frequency begun ended s ts x.drain := by
  have hne : x.frequency ≠ 0 := hx.frequency ▸ hfrequency
  unfold Schedule.drain
  split
  · next hdrained =>
    have hflight : x.inFlight = 0 := hx.drained.1 hdrained
    refine obeyed ⟨hx.frequency, hx.begun, hx.ended, hx.inFlight, hx.drained⟩ rfl ?_ ?_
    · simp [Shift.awaited, Tag.ofCommand, Tag.control?, hstarted, hresults, hcontrols]
    · simp [Suits, hstarted, hresults, hflight, hne]
  · next hdrained =>
    refine obeyed ⟨hx.frequency, hx.begun, hx.ended, hx.inFlight, hx.drained⟩ rfl ?_ ?_
    · simp [Shift.awaited, hdrained, hcontrols]
    · simp [Suits, hstarted, hresults, hne]

theorem rest {x : Schedule} (hx : Counts frequency begun ended x) (hstarted : x.started ≠ none)
    (hresults : s.results = []) (hfrequency : frequency ≠ 0) (hcontrols : controls ts = 0) :
    Obeyed frequency begun ended s ts x.rest := by
  have hne : x.frequency ≠ 0 := hx.frequency ▸ hfrequency
  unfold Schedule.rest
  split
  · exact drain hx hstarted hresults hfrequency hcontrols
  · next hstopping =>
    split
    · refine obeyed ⟨hx.frequency, hx.begun, hx.ended, hx.inFlight, hx.drained⟩ rfl ?_ ?_
      · simp [Shift.awaited, Tag.ofCommand, Tag.control?, hcontrols]
      · simpa [Suits, Tag.ofCommand, hstarted, hresults, hne] using hstopping
    · refine obeyed ⟨hx.frequency, hx.begun, hx.ended, hx.inFlight, hx.drained⟩ rfl ?_ ?_
      · simp [Shift.awaited, Tag.ofCommand, Tag.control?, hcontrols]
      · simp [Suits, hstarted, hresults, hne]

/-- A run begins once, with nothing in flight. -/
theorem run (h : Account frequency begun ended s (.run ::ₘ ts)) (hle : ended.card ≤ begun.card) :
    Obeyed frequency begun ended s ts (s.schedule.run now) := by
  obtain ⟨hawaited, hcontrols⟩ := toList_eq_cons (h.awaited.trans (filterMap_cons _ _ _))
  obtain ⟨hphase, hstarted⟩ := awaited_run hawaited
  obtain ⟨hbegun, hresults⟩ : s.schedule.begun = 0 ∧ s.results = [] := by
    simpa [Suits, hphase, hstarted] using h.suits
  have hx : Counts frequency begun ended { s.schedule with started := some now } :=
    ⟨h.frequency, h.begun, h.ended, h.inFlight, h.drained⟩
  simp only [Schedule.run]
  split
  · next honeShot =>
    have hfrequency : s.schedule.frequency = 0 := by simpa [Schedule.oneShot] using honeShot
    have hended : ended.card = 0 := by
      have : begun.card = 0 := by simp [h.begun, hbegun]
      omega
    have hflight : s.schedule.inFlight = 0 := by
      have := h.inFlight
      have := h.ended
      omega
    obtain ⟨h₁, h₂, h₃, h₄, h₅⟩ := hx.launch hle
    refine ⟨⟨h₁, ?_, h₃, h₄, h₅⟩, ?_, ?_⟩
    · simpa [Tag.ofCommand, Tag.opening?, Schedule.launch] using h₂
    · simp [Shift.awaited, Tag.ofCommand, Tag.control?, hcontrols, Schedule.launch, hflight]
    · simp [Suits, Schedule.launch, hresults, hfrequency, hbegun]
  · next hrepeated =>
    have hfrequency : frequency ≠ 0 := by
      rw [← h.frequency]
      simpa [Schedule.oneShot] using hrepeated
    exact rest hx (by simp) hresults hfrequency hcontrols

/-- A stop ends the wait for an interval, and changes nothing else. -/
theorem stop (h : Account frequency begun ended s ts) :
    Obeyed frequency begun ended s ts s.schedule.stop := by
  simp only [Schedule.stop]
  split
  · next hphase =>
    have hphase : s.schedule.phase = .sleeping := hphase
    obtain ⟨hstarted, hresults, hne, -, -⟩ : s.schedule.started ≠ none ∧ s.results = [] ∧
        s.schedule.frequency ≠ 0 ∧ s.schedule.stopping = false ∧ Tag.interval ∈ ts := by
      simpa [Suits, hphase] using h.suits
    have hcontrols : controls ts = 0 := by simpa [Shift.awaited, hphase] using h.awaited.symm
    refine obeyed ⟨h.frequency, h.begun, h.ended, h.inFlight, h.drained⟩ rfl ?_ ?_
    · simp [Shift.awaited, Tag.ofCommand, Tag.control?, hcontrols]
    · simp [Suits, hstarted, hresults, hne]
  · next hphase =>
    refine obeyed ⟨h.frequency, h.begun, h.ended, h.inFlight, h.drained⟩ rfl ?_ ?_
    · simpa [Shift.awaited] using h.awaited
    · have hsuits := h.suits
      unfold Suits at hsuits ⊢
      cases hp : s.schedule.phase <;> simp_all

/-- After the interval a cycle is due, where the run still waits for it. -/
theorem expire (h : Account frequency begun ended s (.interval ::ₘ ts)) :
    Obeyed frequency begun ended s ts s.schedule.expire := by
  have hcontrols : ((Shift.awaited s).toList : Multiset Control) = controls ts := by
    simpa [Tag.control?] using h.awaited
  unfold Schedule.expire
  split
  · next hphase =>
    obtain ⟨hstarted, hresults, hne, -⟩ : s.schedule.started ≠ none ∧ s.results = [] ∧
        s.schedule.frequency ≠ 0 ∧ s.schedule.stopping = false := by
      simpa [Suits, hphase] using h.suits
    refine obeyed ⟨h.frequency, h.begun, h.ended, h.inFlight, h.drained⟩ rfl ?_ ?_
    · simp [Shift.awaited, Tag.ofCommand, Tag.control?, ← hcontrols, hphase]
    · simp [Suits, hstarted, hresults, hne]
  · next hphase =>
    refine obeyed ⟨h.frequency, h.begun, h.ended, h.inFlight, h.drained⟩ rfl ?_ ?_
    · simpa using hcontrols
    · have hsuits := h.suits
      unfold Suits at hsuits ⊢
      cases hp : s.schedule.phase <;> simp_all

theorem begun_rest (x : Schedule) : x.rest.1.begun = x.begun := by
  unfold Schedule.rest Schedule.drain
  split
  · split <;> rfl
  · split <;> rfl

/-- The run goes on with the one thing that it has waited for. -/
theorem proceed (h : Account frequency begun ended s (.resume 0 ::ₘ ts))
    (hle : ended.card ≤ begun.card) :
    Obeyed frequency begun ended s ts (s.schedule.proceed now) := by
  obtain ⟨hawaited, hcontrols⟩ := toList_eq_cons (h.awaited.trans (filterMap_cons _ _ _))
  have hsuits := h.suits
  unfold Suits at hsuits
  obtain hphase | hphase | ⟨hphase, -⟩ | ⟨hphase, hflight⟩ := awaited_resume hawaited
  · rw [hphase] at hsuits
    obtain ⟨hstarted, hresults, hne⟩ := hsuits
    rw [h.frequency] at hne
    simp only [Schedule.proceed, hphase]
    split
    · exact obeyed_timeUp
        (drain h.toCounts hstarted hresults hne (by simpa [Tag.control?] using hcontrols))
    · rw [begun_rest]
      exact obeyed_begin (rest (h.toCounts.launch hle) hstarted hresults hne
        (by simpa [Tag.control?] using hcontrols))
  · rw [hphase] at hsuits
    obtain ⟨hstarted, hresults, hne⟩ := hsuits
    simp only [Schedule.proceed, hphase]
    exact drain h.toCounts hstarted hresults (h.frequency ▸ hne) hcontrols
  · rw [hphase] at hsuits
    obtain ⟨hstarted, hresults, hne⟩ := hsuits
    simp only [Schedule.proceed, hphase]
    exact drain h.toCounts hstarted hresults (h.frequency ▸ hne) hcontrols
  · rw [hphase] at hsuits
    obtain ⟨hstarted, hresults, hzero, hbegun⟩ := hsuits
    simp only [Schedule.proceed, hphase]
    refine obeyed ⟨h.frequency, h.begun, h.ended, h.inFlight, h.drained⟩ rfl ?_ ?_
    · simp [Shift.awaited, Tag.ofCommand, Tag.control?, hstarted, hresults, hcontrols]
    · simp [Suits, hstarted, hresults, hflight, hbegun]

/-- The end of a cycle is counted once, and the last one in flight lets the run go on. -/
theorem endCycle {n : Nat} (h : Account frequency begun ended s (.closing n ::ₘ ts))
    (hlt : ended.card < begun.card) :
    Obeyed frequency begun (n ::ₘ ended) s ts (s.schedule.note now n false).endCycle := by
  have hbegun : begun.card = s.schedule.begun := by simp [h.begun]
  have hended := h.ended
  have hflight := h.inFlight
  -- one cycle at least is in flight, so the run has not heard yet that none is
  have hundrained : s.schedule.drained = false := by
    have := h.drained
    grind
  have hcontrols : ((Shift.awaited s).toList : Multiset Control) = controls ts := by
    simpa [Tag.control?] using h.awaited
  have hsuits := h.suits
  unfold Suits at hsuits
  have hcounts : Counts frequency begun (n ::ₘ ended)
      { s.schedule with
        inFlight := s.schedule.inFlight - 1
        ended := s.schedule.ended + 1
        drained := s.schedule.drained || decide (s.schedule.inFlight - 1 ≤ 0) } := by
    refine ⟨h.frequency, h.begun, ?_, ?_, ?_⟩
    · simp [hended]
    · simp only
      omega
    · simp only [hundrained, Bool.false_or, decide_eq_true_eq]
      omega
  cases hphase : s.schedule.phase with
  | idle =>
    simp only [hphase] at hsuits
    split at hsuits <;> omega
  | sleeping | due | roused =>
    rw [hphase] at hsuits
    simp only [Schedule.endCycle, Schedule.note, hphase]
    refine obeyed
      ⟨hcounts.frequency, hcounts.begun, hcounts.ended, hcounts.inFlight, hcounts.drained⟩
      rfl ?_ ?_
    · simpa [Shift.awaited, hphase] using hcontrols
    · simpa [Suits] using hsuits
  | draining =>
    rw [hphase] at hsuits
    have hnone : controls ts = 0 := by
      simpa [Shift.awaited, hphase, hundrained] using hcontrols.symm
    simp only [Schedule.endCycle, Schedule.note, hphase]
    refine obeyed
      ⟨hcounts.frequency, hcounts.begun, hcounts.ended, hcounts.inFlight, hcounts.drained⟩
      (by split <;> rfl) ?_ ?_
    · split <;> simp_all [Shift.awaited, Tag.ofCommand, Tag.control?]
    · simpa [Suits] using hsuits
  | single =>
    rw [hphase] at hsuits
    have hone : s.schedule.inFlight = 1 := by omega
    have hnone : controls ts = 0 := by simpa [Shift.awaited, hphase, hone] using hcontrols.symm
    simp only [Schedule.endCycle, Schedule.note, hphase]
    refine obeyed
      ⟨hcounts.frequency, hcounts.begun, hcounts.ended, hcounts.inFlight, hcounts.drained⟩
      rfl ?_ ?_
    · simp [Shift.awaited, Tag.ofCommand, Tag.control?, hone, hnone]
    · simpa [Suits] using hsuits

theorem farewell {n : Nat} (h : Account frequency begun ended s (.farewell n ::ₘ ts)) :
    Account frequency begun ended { s with results := n :: s.results } ts := by
  obtain ⟨hawaited, hcontrols⟩ := toList_eq_cons (h.awaited.trans (filterMap_cons _ _ _))
  obtain ⟨hphase, hstarted, hresults, rfl⟩ := awaited_farewell hawaited
  obtain ⟨hflight, -, honce⟩ : s.schedule.inFlight = 0 ∧
    (s.results = [] ∨ s.results = [s.schedule.begun]) ∧
      (s.schedule.frequency = 0 → s.schedule.begun = 1) := by
    simpa [Suits, hphase, hstarted] using h.suits
  refine ⟨h.toCounts, ?_, ?_⟩
  · simp [Shift.awaited, hphase, hstarted, hcontrols]
  · simpa [Suits, hphase, hstarted, hflight, hresults] using honce

end Account
end Shift
end TestWorker
