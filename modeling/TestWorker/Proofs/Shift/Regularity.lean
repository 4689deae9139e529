import TestWorker.Proofs.Shift.Punctuality

namespace TestWorker.Shift
open Rehearsal.Cycle

variable {T : Terms} {c : Console} {cycle : Nat → Rehearsal.Cycle} {now : Instant} {s : Shift Unit}
  {xs : Multiset CycleStrand} {P : Multiset (Nat × Tag Nat)}

theorem calm_obey (c : Console) (oneShot : Bool) (k : Schedule.Command) :
    (∀ x ∈ (obey (ρ := fun _ : Nat => Unit) c oneShot k).1, x.rest.Calm) ∧
      ∀ x ∈ (obey (ρ := fun _ : Nat => Unit) c oneShot k).2, x.rest.Calm := by
  have hone {t : Tag Nat} {a : Activity (Tag.Result (fun _ : Nat => Unit) t)} (ha : a.Calm) :
      ∀ x ∈ [(⟨t, a⟩ : CycleStrand)], x.rest.Calm := by
    intro x hx
    rw [List.mem_singleton.1 hx]
    exact ha
  cases k with
  | sleep interval => exact ⟨hone (t := .interval) ⟨trivial, fun _ => trivial⟩, nofun⟩
  | begin n => exact ⟨nofun, hone (t := .opening n) (Activity.calm_print _)⟩
  | resume turns => exact ⟨nofun, hone (t := .resume turns) trivial⟩
  | timeUp => exact ⟨hone (t := .notice) (Activity.calm_print _), nofun⟩
  | finish n =>
    refine ⟨hone (t := .farewell n) ?_, nofun⟩
    cases oneShot
    · exact Activity.calm_print _
    · trivial

theorem calm_follow (c : Console) (s : Shift Unit) (x : Schedule × List Schedule.Command) :
    ∀ y ∈ (follow (ρ := fun _ : Nat => Unit) c s x).strands, y.rest.Calm := by
  intro y hy
  rcases Multiset.mem_add.1 hy with hy | hy
  · obtain ⟨k, -, hk⟩ := List.mem_flatMap.1 (Multiset.mem_coe.1 hy)
    exact (calm_obey c _ k).1 y hk
  · obtain ⟨k, -, hk⟩ := List.mem_flatMap.1 (Multiset.mem_coe.1 hy)
    exact (calm_obey c _ k).2 y hk

theorem plan_inner (hcycles : ∀ n, (cycle n).stops = false) (now : Instant)
    (n : Nat) (r : Unit) (s : Shift Unit) :
    (plan c (following cycle) now (.inner n) r s).state = s ∧
      ∃ lines, (plan c (following cycle) now (.inner n) r s).strands =
        {⟨.closing n, Activity.print lines⟩} := by
  have hsignals : ((following cycle).react now n r s.work).2 =
      [.cycleEnded n (cycle n).outcome] := by
    simp [following, hcycles n]
  obtain ⟨lines, hlines⟩ :=
    strands_heed_cycleEnded c (lift s ((following cycle).react now n r s.work).1) n
    (cycle n).outcome
  have hplan : plan c (following cycle) now (.inner n) r s =
      heed c (lift s ((following cycle).react now n r s.work).1)
        (.cycleEnded n (cycle n).outcome) := by
    simp only [plan, hsignals]
    rfl
  rw [hplan]
  exact ⟨rfl, lines, hlines⟩

theorem calm_plan (hcycles : ∀ n, (cycle n).stops = false) (now : Instant) (t : Tag Nat)
    (r : Tag.Result (fun _ : Nat => Unit) t) (s : Shift Unit) :
    ∀ x ∈ (plan c (following cycle) now t r s).strands, x.rest.Calm := by
  have hone {x : CycleStrand} (hx : x.rest.Calm) :
      ∀ y ∈ ({x} : Multiset CycleStrand), y.rest.Calm := by
    intro y hy
    rw [Multiset.mem_singleton.1 hy]
    exact hx
  cases t with
  | run | stop | interval | closing n => exact calm_follow c _ _
  | resume turns =>
    cases turns with
    | zero => exact calm_follow c _ _
    | succ k => exact hone (x := ⟨.resume k, .done ()⟩) trivial
  | opening n =>
    exact hone (x := ⟨.inner n, Activity.pause (cycle n).duration⟩) ⟨trivial, fun _ => trivial⟩
  | inner n =>
    obtain ⟨-, lines, hlines⟩ := plan_inner (c := c) hcycles now n r s
    rw [hlines]
    exact hone (Activity.calm_print lines)
  | notice | farewell n => exact fun y hy => absurd hy (Multiset.notMem_zero y)

theorem calm_opening (stops : List (Nat × List Line)) :
    ∀ x ∈ opening (ρ := fun _ : Nat => Unit) stops, x.rest.Calm := by
  intro x hx
  rcases Multiset.mem_cons.1 hx with rfl | hx
  · trivial
  · obtain ⟨stop, -, rfl⟩ := List.mem_map.1 (Multiset.mem_coe.1 hx)
    exact ⟨trivial, fun _ => Activity.calm_print stop.2⟩

theorem Tag.prompt_of_control? {t : Tag Nat} {k : Control} (h : t.control? = some k) :
    t.prompt = true := by
  cases t with
  | inner n | interval | stop => cases h
  | _ => rfl

theorem exists_prompt {frequency : Int} {begun ended : Multiset Nat}
    (h : Account frequency begun ended s (P.map Prod.snd)) (k : Control)
    (hawaited : awaited s = some k) :
    ∃ x ∈ P, x.2.prompt = true := by
  have hcontrols := h.awaited
  rw [hawaited] at hcontrols
  have hmem : k ∈ controls (P.map Prod.snd) := by
    rw [← hcontrols]
    exact Multiset.mem_singleton_self k
  obtain ⟨t, ht, hk⟩ := (Multiset.mem_filterMap _ _).1 hmem
  obtain ⟨x, hx, rfl⟩ := Multiset.mem_map.1 ht
  exact ⟨x, hx, Tag.prompt_of_control? hk⟩

theorem parts_eq_zero_iff (hP : P.map Prod.snd = tags xs) :
    parts P = 0 ↔ openings (tags xs) = 0 ∧ closings (tags xs) = 0 ∧ xs.filterMap inner? = 0 := by
  have htags : (∀ x ∈ P, x.2.part? = none) ↔ ∀ y ∈ xs, y.tag.part? = none := by
    have hmap : (∀ t ∈ P.map Prod.snd, t.part? = none) ↔ ∀ t ∈ tags xs, t.part? = none := by rw [hP]
    rwa [tags, Multiset.forall_mem_map_iff, Multiset.forall_mem_map_iff] at hmap
  simp only [parts_eq_zero, htags, openings, closings, filterMap_eq_zero, tags,
    Multiset.forall_mem_map_iff, ← forall_and]
  refine forall_congr' fun y => ?_
  obtain ⟨t, a⟩ := y
  cases t <;> simp [Tag.part?, Tag.opening?, Tag.closing?, inner?]

/-- While a cycle is in flight, one is on its way. -/
theorem parts_ne_zero {frequency : Int} {log : List (Ending (Tag.Result fun _ : Nat => Unit))}
    (h : Sound (following cycle) () frequency log s xs) (hP : P.map Prod.snd = tags xs)
    (hflight : s.schedule.inFlight ≠ 0) : parts P ≠ 0 := by
  intro hparts
  obtain ⟨hopenings, hclosings, hinner⟩ := (parts_eq_zero_iff hP).1 hparts
  have hcycles := runs_following h.routine
  have hopened := h.opened
  have hclosed := h.closed
  rw [hinner, tags_zero, add_zero] at hcycles
  rw [hopenings, add_zero] at hopened
  rw [hclosings, add_zero] at hclosed
  have hequal : (endedIn log).card = (begunIn log).card := by rw [← hopened, hcycles, hclosed]
  have hbegun : (begunIn log).card = s.schedule.begun := by simp [h.account.begun]
  have hended := h.account.ended
  have hcounts := h.account.inFlight
  omega

/-- A run that has not returned waits for a strand that ends at once, for an interval, or for
cycles. -/
theorem waits {frequency : Int} {log : List (Ending (Tag.Result fun _ : Nat => Unit))}
    (h : Sound (following cycle) () frequency log s xs) (hP : P.map Prod.snd = tags xs)
    (hresults : s.results = []) (hpunctual : Punctual T now s.schedule P) :
    (∃ x ∈ P, x.2.prompt = true) ∨ s.schedule.phase = .sleeping ∨
      s.schedule.phase = .draining ∧ parts P ≠ 0 := by
  have haccount := h.account
  rw [← hP] at haccount
  cases hphase : s.schedule.phase with
  | idle =>
    left
    by_cases hstarted : s.schedule.started = none
    · exact exists_prompt haccount .run (by simp [awaited, hphase, hstarted])
    · exact exists_prompt haccount (.farewell _)
        (by simp [awaited, hphase, hstarted, hresults]; rfl)
  | sleeping => exact .inr (.inl rfl)
  | due | roused => exact .inl (exists_prompt haccount .resume (by simp [awaited, hphase]))
  | draining =>
    by_cases hdrained : s.schedule.drained = true
    · exact .inl (exists_prompt haccount .resume (by simp [awaited, hphase, hdrained]))
    · exact .inr (.inr
        ⟨rfl, parts_ne_zero h hP fun hflight => hdrained (haccount.drained.2 hflight)⟩)
  | single =>
    have hstands := hpunctual.stands
    simp [Stands, hphase] at hstands

theorem ends_closing (now n : Nat) (lines : List Line) :
    Crew.ends now ({⟨.closing n, Activity.print lines⟩} : Multiset CycleStrand) =
      {(now, .closing n)} := by
  have hprint : now + (Activity.print lines).pauses = now := by
    rw [Activity.pauses_print, Nat.add_zero]
  exact congrArg (fun t : Nat => ({(t, .closing n)} : Multiset (Nat × Tag Nat))) hprint

theorem started_of_resume {frequency : Int} {begun ended : Multiset Nat} {ts : Multiset (Tag Nat)}
    (h : Account frequency begun ended s (.resume 0 ::ₘ ts)) :
    s.schedule.started ≠ none ∧ s.schedule.phase ≠ .idle := by
  obtain ⟨hawaited, -⟩ := toList_eq_cons (h.awaited.trans (filterMap_cons _ _ _))
  have hsuits := h.suits
  unfold Suits at hsuits
  obtain hphase | hphase | ⟨hphase, -⟩ | ⟨hphase, -⟩ := awaited_resume hawaited
  all_goals
    rw [hphase] at hsuits ⊢
    exact ⟨hsuits.1, nofun⟩

/-- A strand that ends keeps the run on time. -/
theorem Punctual.ending {frequency : Int} {begun ended : Multiset Nat} {t : Tag Nat}
    (h : Punctual T now s.schedule ((now, t) ::ₘ P)) (hnext : ∀ x ∈ P, now ≤ x.1)
    (haccount : Account frequency begun ended s (t ::ₘ P.map Prod.snd))
    (r : Tag.Result (fun _ : Nat => Unit) t) :
    Punctual T now (plan c (following T.cycle) now t r s).state.schedule
      (Crew.ends now (plan c (following T.cycle) now t r s).strands + P) := by
  cases t with
  | run =>
    obtain ⟨hawaited, -⟩ := toList_eq_cons (haccount.awaited.trans (filterMap_cons _ _ _))
    obtain ⟨hphase, hstarted⟩ := awaited_run hawaited
    rw [show plan c (following T.cycle) now .run r s = follow c s (s.schedule.run now) from rfl,
      ends_follow]
    exact h.run hphase hstarted
  | stop =>
    rw [show plan c (following T.cycle) now .stop r s = follow c s s.schedule.stop from rfl,
      ends_follow]
    exact h.stop hnext
  | interval =>
    rw [show plan c (following T.cycle) now .interval r s = follow c s s.schedule.expire from rfl,
      ends_follow]
    exact h.expire
  | resume turns =>
    cases turns with
    | zero =>
      obtain ⟨hstarted, hphase⟩ := started_of_resume haccount
      rw [show plan c (following T.cycle) now (.resume 0) r s =
        follow c s (s.schedule.proceed now) from rfl, ends_follow]
      exact h.proceed hnext hstarted hphase
    | succ k =>
      refine h.passes (Q := {(now, .resume k)}) rfl rfl nofun ?_ rfl rfl
      intro x hx
      rw [Multiset.mem_singleton.1 hx]
      exact ⟨fun _ => Nat.le_refl _, nofun⟩
  | opening n => exact h.opens
  | inner n =>
    obtain ⟨hstate, lines, hlines⟩ := plan_inner (c := c) T.unstopped now n r s
    rw [hstate, hlines, ends_closing]
    exact h.ends
  | closing n =>
    rw [show (plan c (following T.cycle) now (.closing n) r s) =
      follow c s (s.schedule.note now n false).endCycle from rfl, ends_follow]
    exact h.closes
  | notice | farewell n =>
    refine h.passes (Q := 0) rfl rfl nofun ?_ rfl rfl
    exact fun x hx => absurd hx (Multiset.notMem_zero x)

/-- How many ends of strands a strand leads to, at most, where cycles that it begins are left
out. -/
def weight : Tag Nat → Nat
  | .run => 7
  | .opening _ | .interval | .stop => 6
  | .inner _ => 5
  | .closing _ => 4
  | .resume turns => 3 + turns
  | .notice | .farewell _ => 1

def load (ts : Multiset (Tag Nat)) : Nat := (ts.map weight).sum

@[simp] theorem load_zero : load 0 = 0 := rfl

@[simp] theorem load_cons (t : Tag Nat) (ts : Multiset (Tag Nat)) :
    load (t ::ₘ ts) = weight t + load ts := by
  simp [load]

@[simp] theorem load_singleton (t : Tag Nat) : load {t} = weight t := by simp [load]

theorem load_add (ts us : Multiset (Tag Nat)) : load (ts + us) = load ts + load us := by simp [load]

/-- What is left of a run: the cycles that may still begin, and the strands. -/
def remaining (T : Terms) (s : Schedule) (ts : Multiset (Tag Nat)) : Nat :=
  10 * (T.most - s.begun) + load ts

/-- An event leaves less than there was with a strand of such a weight. -/
def Lightens (T : Terms) (n : Nat) (s : Schedule) (x : Schedule × List Schedule.Command) : Prop :=
  remaining T x.1 (called x.2) < 10 * (T.most - s.begun) + n

theorem lightens_drain (s : Schedule) : Lightens T 2 s s.drain := by
  unfold Lightens Schedule.drain
  split <;> simp [remaining, Tag.ofCommand, weight]

theorem lightens_rest (s : Schedule) : Lightens T 7 s s.rest := by
  have hdrain := lightens_drain (T := T) s
  unfold Lightens at hdrain
  unfold Lightens Schedule.rest
  split
  · omega
  · split <;> simp [remaining, Tag.ofCommand, weight]

theorem lightens_run {s : Schedule} (hpos : 0 < s.frequency) (now : Nat) :
    Lightens T 7 s (s.run now) := by
  have hne : ({ s with started := some now } : Schedule).oneShot = false := by
    have : s.frequency ≠ 0 := by omega
    simpa [Schedule.oneShot] using this
  have hrest := lightens_rest (T := T) { s with started := some now }
  simp only [Schedule.run, hne, Bool.false_eq_true, if_false]
  exact hrest

theorem lightens_stop (s : Schedule) : Lightens T 6 s s.stop := by
  cases hphase : s.phase <;>
    simp [Lightens, Schedule.stop, hphase, remaining, Tag.ofCommand, weight]

theorem lightens_expire (s : Schedule) : Lightens T 6 s s.expire := by
  cases hphase : s.phase <;>
    simp [Lightens, Schedule.expire, hphase, remaining, Tag.ofCommand, weight]

theorem lightens_endCycle (s : Schedule) (now n : Nat) :
    Lightens T 4 s (s.note now n false).endCycle := by
  cases hphase : s.phase with
  | draining =>
    simp only [Lightens, Schedule.endCycle, Schedule.note, hphase]
    split <;> simp [remaining, Tag.ofCommand, weight]
  | _ => simp [Lightens, Schedule.endCycle, Schedule.note, hphase, remaining, Tag.ofCommand, weight]

/-- A cycle that begins is one of those that may. -/
theorem Punctual.lightens_proceed {s : Schedule} (h : Punctual T now s P)
    (hstarted : s.started ≠ none) :
    Lightens T 3 s (s.proceed now) := by
  have hdrain := lightens_drain (T := T) s
  unfold Lightens remaining at hdrain ⊢
  cases hphase : s.phase with
  | due =>
    rcases h.proceed_of_due hstarted hphase with ⟨-, hproceed⟩ | ⟨hmost, hproceed⟩
    · rw [hproceed]
      simp only [called_cons, load_cons, Tag.ofCommand, weight]
      omega
    · rw [hproceed]
      simp only [called_cons, called_nil, load_cons, load_zero,
        Tag.ofCommand, weight, Schedule.launch]
      omega
  | roused | draining =>
    simp only [Schedule.proceed, hphase]
    omega
  | single => simp [Schedule.proceed, hphase, Tag.ofCommand, weight]
  | idle | sleeping => simp [Schedule.proceed, hphase]

theorem remaining_follow {n : Nat} {x : Schedule × List Schedule.Command} {s : Schedule}
    (h : Lightens T n s x) (c : Console) (s' : Shift Unit) (ts : Multiset (Tag Nat)) :
    remaining T (follow (ρ := fun _ : Nat => Unit) c s' x).state.schedule
      ((follow (ρ := fun _ : Nat => Unit) c s' x).tags + ts) <
        10 * (T.most - s.begun) + (n + load ts) := by
  rw [tags_follow, remaining, load_add]
  unfold Lightens remaining at h
  show 10 * (T.most - x.1.begun) + (load (called x.2) + load ts) < _
  omega

/-- Each end of a strand brings the end of the run nearer. -/
theorem Punctual.remaining_lt {frequency : Int} {begun ended : Multiset Nat}
    {t : Tag Nat} {ts : Multiset (Tag Nat)} (h : Punctual T now s.schedule P)
    (haccount : Account frequency begun ended s (t ::ₘ ts))
    (r : Tag.Result (fun _ : Nat => Unit) t) :
    remaining T (plan c (following T.cycle) now t r s).state.schedule
      ((plan c (following T.cycle) now t r s).tags + ts) < remaining T s.schedule (t ::ₘ ts) := by
  have hpos : (0 : Int) < s.schedule.frequency := by
    rw [h.frequency]
    exact_mod_cast T.frequency_pos
  have hbefore : remaining T s.schedule (t ::ₘ ts) =
      10 * (T.most - s.schedule.begun) + (weight t + load ts) := by
    rw [remaining, load_cons]
  have hone (u : Tag Nat) (hu : weight u < weight t) :
      remaining T s.schedule ({u} + ts) <
        10 * (T.most - s.schedule.begun) + (weight t + load ts) := by
    rw [remaining, load_add, load_singleton]
    omega
  have hnone (hu : 0 < weight t) :
      remaining T s.schedule (0 + ts) <
        10 * (T.most - s.schedule.begun) + (weight t + load ts) := by
    rw [zero_add, remaining]
    omega
  rw [hbefore]
  cases t with
  | run => exact remaining_follow (lightens_run hpos now) c s ts
  | stop => exact remaining_follow (lightens_stop s.schedule) c s ts
  | interval => exact remaining_follow (lightens_expire s.schedule) c s ts
  | resume turns =>
    cases turns with
    | zero => exact remaining_follow (h.lightens_proceed (started_of_resume haccount).1) c s ts
    | succ k => exact hone (.resume k) (Nat.lt_succ_self _)
  | opening n => exact hone (.inner n) (Nat.lt_succ_self _)
  | inner n =>
    obtain ⟨hstate, lines, hlines⟩ := plan_inner (c := c) T.unstopped now n r s
    rw [hstate, Reaction.tags, hlines, tags_singleton]
    exact hone (.closing n) (Nat.lt_succ_self _)
  | closing n => exact remaining_follow (lightens_endCycle s.schedule now n) c s ts
  | notice | farewell n => exact hnone Nat.one_pos

variable {σ : Type} {o : Outside σ}
  {crew next : Crew (Tag.Result fun _ : Nat => Unit) (Shift Unit) σ}

def Terms.stops (T : Terms) : List (Nat × List Line) := T.halt.toList

def Terms.halts (T : Terms) : Multiset (Nat × Tag Nat) :=
  (T.stops.map fun x => (T.start + x.1, Tag.stop) : List (Nat × Tag Nat))

theorem mem_halts {x : Nat × Tag Nat} :
    x ∈ T.halts ↔ ∃ t, T.stop = some t ∧ x = (T.start + t, .stop) := by
  simp [Terms.halts, Terms.stops, Terms.stop, eq_comm]

def Terms.before (T : Terms) (surroundings : σ) :
    Crew (Tag.Result fun _ : Nat => Unit) (Shift Unit) σ :=
  { waiting T.frequency T.budget () T.stops surroundings with now := T.start }

/-- A crew whose run is on time. -/
structure Keeps (T : Terms) (c : Console)
    (crew : Crew (Tag.Result fun _ : Nat => Unit) (Shift Unit) σ) : Prop where
  timely : crew.Timely
  calm : crew.Calm
  punctual : Punctual T crew.now crew.state.schedule crew.calendar
  runs : ∃ log,
    Runs (plan c (following T.cycle)) (fresh T.frequency T.budget ()) (opening T.stops) log
    crew.state crew.strands

theorem Keeps.turn (ho : o.Prompt) (h : Keeps T c crew) (hresults : crew.state.results = [])
    (hturn : crew.turn (plan c (following T.cycle)) o = some next) : Keeps T c next := by
  obtain ⟨log, hlog⟩ := h.runs
  have hsound := sound (following_honest T.cycle) hlog
  have htags := Crew.map_snd_calendar crew
  obtain ⟨htimely, hcalm, hpasses⟩ :=
    h.calm.passes ho (calm_plan T.unstopped) h.timely hturn
  refine ⟨htimely, hcalm, ?_, Crew.runs_turn hlog hturn⟩
  cases hpasses with
  | time le before state calendar =>
    rw [state, calendar]
    exact h.punctual.time le before (waits hsound htags hresults h.punctual)
  | @ending t r ts before now state calendar =>
    have hpunctual := h.punctual
    have haccount := hsound.account
    rw [← htags] at haccount
    rw [before] at hpunctual haccount
    rw [Multiset.map_cons] at haccount
    have hnext : ∀ x ∈ ts, crew.now ≤ x.1 := by
      intro x hx
      refine Crew.now_le_of_mem_calendar h.timely ?_
      rw [before]
      exact Multiset.mem_cons_of_mem hx
    rw [now, state, calendar]
    exact hpunctual.ending hnext haccount r

theorem calendar_ready (T : Terms) (w : σ) : (ready (T.before w)).calendar =
    (T.start, .run) ::ₘ T.halts := by
  have hstop : ∀ x : Nat × List Line,
      (stopStrand (ρ := fun _ : Nat => Unit) x.1 x.2).rest.pauses = x.1 := by
    intro x
    have hprint : x.1 + (Activity.print x.2).pauses = x.1 := by
      rw [Activity.pauses_print, Nat.add_zero]
    exact hprint
  have hready : (ready (T.before w)).calendar =
      T.halts + {(T.start, .run)} := by
    simp only [Crew.calendar, Crew.dated, ready, Terms.before, waiting, List.map_append,
      List.map_map, List.map_nil, Multiset.coe_nil, add_zero, Multiset.map_coe]
    rw [← Multiset.coe_add]
    refine congrArg (· + _) (congrArg Multiset.ofList (List.map_congr_left fun x _ => ?_))
    exact congrArg (fun p : Nat => (T.start + p, Tag.stop)) (hstop x)
  rw [hready, add_comm, Multiset.singleton_add]

theorem punctual_ready (T : Terms) (w : σ) :
    Punctual T T.start (fresh T.frequency T.budget ()).schedule (ready (T.before w)).calendar := by
  have hparts : parts (ready (T.before w)).calendar = 0 := by
    rw [calendar_ready, parts_cons_of_none rfl, parts_eq_zero]
    intro x hx
    obtain ⟨t, -, rfl⟩ := mem_halts.1 hx
    rfl
  have hintervals : intervals (ready (T.before w)).calendar = 0 := by
    rw [calendar_ready, intervals_cons_of_none rfl]
    refine filterMap_eq_zero.2 fun x hx => ?_
    obtain ⟨t, -, rfl⟩ := mem_halts.1 hx
    rfl
  refine ⟨rfl, rfl, nofun, Nat.le_add_right _ _, Nat.zero_le _,
    ?_, ?_, ?_, rfl, rfl, hintervals, rfl, ?_⟩
  · rw [calendar_ready]
    intro x hx hstop
    rcases Multiset.mem_cons.1 hx with rfl | hx
    · cases hstop
    · obtain ⟨t, ht, rfl⟩ := mem_halts.1 hx
      exact ⟨t, ht, rfl⟩
  · rw [calendar_ready]
    intro x hx hprompt
    rcases Multiset.mem_cons.1 hx with rfl | hx
    · exact Nat.le_refl _
    · obtain ⟨t, -, rfl⟩ := mem_halts.1 hx
      cases hprompt
  · rw [hparts]
    exact OnTime.start T T.start
  · intro t ht
    rw [calendar_ready]
    exact Multiset.mem_cons_of_mem (mem_halts.2 ⟨t, ht, rfl⟩)

theorem keeps_ready (T : Terms) (c : Console) (w : σ) : Keeps T c (ready (T.before w)) := by
  have hstrands : (ready (T.before w)).strands = opening T.stops :=
    strands_ready T.frequency T.budget () T.stops w
  refine ⟨Crew.timely_of_no_alarms rfl, fun x hx => ?_, punctual_ready T w, [], ?_⟩
  · refine calm_opening T.stops x.2 ?_
    rw [← hstrands, ← Crew.map_snd_dated]
    exact Multiset.mem_map_of_mem _ hx
  · rw [hstrands]
    exact .start

/-- What a run on the terms has come to: how many cycles have begun, when each began, and when it
returned. -/
structure Kept (T : Terms) (crew : Crew (Tag.Result fun _ : Nat => Unit) (Shift Unit) σ) :
    Prop where
  cycles : crew.state.results = [T.cycles]
  begins : begins crew.state.schedule.history = T.timetable T.cycles
  returned : crew.now = T.returning

/-- A run that is on time and has returned has done so when it was to. -/
theorem Keeps.kept (h : Keeps T c crew) (hresults : crew.state.results ≠ []) : Kept T crew := by
  obtain ⟨log, hlog⟩ := h.runs
  obtain ⟨hvalue, -, -, hopenings, hclosings, hinner⟩ := (drains hlog).returned hresults
  have hpunctual := h.punctual
  have hsuits := (sound (following_honest T.cycle) hlog).account.suits
  have hover : Over T crew.now crew.state.schedule.begun := by
    have hstands := hpunctual.stands
    unfold Stands at hstands
    unfold Suits at hsuits
    cases hphase : crew.state.schedule.phase with
    | idle =>
      simp only [hphase] at hstands hsuits
      by_cases hstarted : crew.state.schedule.started = none
      · rw [if_pos hstarted] at hsuits
        exact absurd hsuits.2 hresults
      · rw [if_neg hstarted] at hstands
        exact hstands
    | _ =>
      simp only [hphase] at hsuits
      exact absurd hsuits.2.1 hresults
  have hparts : parts crew.calendar = 0 :=
    (parts_eq_zero_iff (Crew.map_snd_calendar crew)).2 ⟨hopenings, hclosings, hinner⟩
  have hends : ∀ k, 1 ≤ k → k ≤ T.cycles → T.ending k ≤ crew.now := by
    intro k h₁ h₂
    rw [← hover.1] at h₂
    rcases hpunctual.cycles.gone k h₁ h₂ with ⟨x, hx, -⟩ | hk
    · rw [hparts] at hx
      exact absurd hx (Multiset.notMem_zero x)
    · exact hk
  refine ⟨?_, ?_, Nat.le_antisymm hpunctual.within (T.returning_le hover.2 hends)⟩
  · rw [hvalue, hover.1]
  · rcases hpunctual.cycles.written with ⟨-, hhistory⟩ | ⟨n, -, -, hunopened, -⟩
    · rw [hhistory, hover.1]
    · rw [hparts, unopened_zero] at hunopened
      exact absurd hunopened (Multiset.zero_ne_cons)

theorem serve_ends (T : Terms) (c : Console) (o : Outside σ) (w : σ) (ho : o.Prompt) :
    ∃ n, ∀ fuel, n ≤ fuel → Keeps T c (serve c (following T.cycle) o fuel (T.before w)) ∧
      (decide (1 ≤ (serve c (following T.cycle) o fuel (T.before w)).state.results.length) = true ∨
        (serve c (following T.cycle) o fuel (T.before w)).strands = 0) := by
  refine Crew.exists_end_of_lowers (μ := fun s ts => remaining T s.schedule ts)
    _ ?_ ?_ _ (keeps_ready T c w)
  · intro crew next h henough hnext
    have hresults : decide (1 ≤ crew.state.results.length) = false := henough
    exact h.turn ho (by simpa using hresults) hnext
  · intro crew t r ts h _ htags
    obtain ⟨log, hlog⟩ := h.runs
    have haccount := (sound (following_honest T.cycle) hlog).account
    rw [htags] at haccount
    exact h.punctual.remaining_lt haccount r

/-- A run with a frequency and a budget begins as many cycles as the budget has room for before a
stop, each one interval after the one before, and returns after the last interval, the stop or the
last cycle to end: no more, no earlier and no later, whatever the cycles do. -/
theorem serve_keeps (T : Terms) (c : Console) (o : Outside σ) (w : σ) (ho : o.Prompt) :
    ∃ n, ∀ fuel, n ≤ fuel → Kept T (serve c (following T.cycle) o fuel (T.before w)) := by
  obtain ⟨n, hn⟩ := serve_ends T c o w ho
  refine ⟨n, fun fuel hfuel => ?_⟩
  obtain ⟨hkeeps, hend⟩ := hn fuel hfuel
  refine hkeeps.kept ?_
  rcases hend with hend | hend
  · exact List.ne_nil_of_length_pos (of_decide_eq_true hend)
  · obtain ⟨log, hlog⟩ := hkeeps.runs
    exact (drains hlog).returns hend

def overlappingTerms (halt : Option (Nat × List Line))
    (between : ∀ x ∈ halt, ¬10 * Clock.millisecond ∣ x.1) : Terms where
  start := 256
  frequency := 10
  budget := 25
  cycle := overlapping
  halt := halt
  frequency_pos := by decide
  budget_pos := by decide
  unstopped n := by
    unfold overlapping
    split <;> rfl
  between := between

def overlappingRun (stops : List (Nat × List Line)) (fuel : Nat) :
    Crew (Tag.Result fun _ : Nat => Unit) (Shift Unit) Rehearsal :=
  serve {} (following overlapping) Rehearsal.outside fuel
    { waiting 10 25 () stops {} with now := 256 }

/-- The first cycle outlasts the budget and fails; a stop after 15 ms comes before the second
one. -/
theorem serve_keeps_overlapping :
    Rehearsal.outside.Prompt ∧ ∃ n, ∀ fuel, n ≤ fuel →
      (overlappingRun [] fuel).state.results = [2] ∧
      begins (overlappingRun [] fuel).state.schedule.history = [(2, 2816), (1, 1536)] ∧
      (overlappingRun [] fuel).now = 6656 ∧
      (overlappingRun [(1920, [])] fuel).state.results = [1] ∧
      begins (overlappingRun [(1920, [])] fuel).state.schedule.history = [(1, 1536)] ∧
      (overlappingRun [(1920, [])] fuel).now = 6656 := by
  have hprompt : Rehearsal.outside.Prompt := fun _ _ _ => rfl
  refine ⟨hprompt, ?_⟩
  obtain ⟨n, hn⟩ := serve_keeps (overlappingTerms none (by simp)) {} Rehearsal.outside {} hprompt
  obtain ⟨m, hm⟩ :=
    serve_keeps (overlappingTerms (some (1920, [])) (by decide)) {} Rehearsal.outside {} hprompt
  refine ⟨max n m, fun fuel hfuel => ?_⟩
  obtain ⟨h₁, h₂, h₃⟩ := hn fuel (Nat.le_trans (Nat.le_max_left n m) hfuel)
  obtain ⟨h₄, h₅, h₆⟩ := hm fuel (Nat.le_trans (Nat.le_max_right n m) hfuel)
  exact ⟨h₁, h₂, h₃, h₄, h₅, h₆⟩

end TestWorker.Shift
