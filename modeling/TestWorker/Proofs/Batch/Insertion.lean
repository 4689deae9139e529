import TestWorker.Proofs.Batch.Guests

namespace TestWorker.Batch
namespace Guests
variable {g : Guests} {σ : Type} {V : σ → σ → Prop} {past past' : List (Instant × Effect)}
  {told : List Nat} {hs : List (Strand Tag.Result)} {is : List Nat}
  {b c d : Crew Tag.Result Batch (σ × List (Instant × Effect))} {o : Outside σ}

/-- A guest comes: no turn of the batch without. -/
theorem Abreast.guest_arrives {i : Nat} (h : g.Abreast V past past' told [] (i :: is) b c)
    (hi : g.number i = none) (hturn : b.turn plan o.recording = some d) :
    g.Along V past past' d c := by
  have hguest : g.isGuest i = true := by simp [isGuest, hi]
  have hlt : i < g.all.length := h.lt_of_guest (.inr (by simp [hguest]))
  obtain ⟨hturns, hwaiting, hslots⟩ := h.places
  have horder := h.order
  rw [List.filter_cons_of_pos hguest] at horder
  -- with room the guest holds a slot that stays free in the other batch, else it stands in a queue
  -- of its own
  obtain ⟨B, hjobs, ⟨hroom, hplan, hqueue, hfree⟩ | ⟨hroom, hplan, hqueue, hfree⟩⟩ :=
    plan_arrival b.now i () b.state
  · rw [Crew.turn_of_done h.ready hplan] at hturn
    cases hturn
    have hnone := h.queue_of_room hroom
    have hstrand := jobStrand_of_guest h.jobs hlt hi
    refine ⟨told, [⟨.job i, Batch.refused (g.lines i)⟩], is, { h with
      ready := ?_
      jobs := hjobs.trans h.jobs
      places := ⟨?_, ?_, ?_⟩
      full := fun hne => absurd (hqueue.trans hnone) hne
      phase := .inr (.inr ⟨⟨i, _, rfl⟩, hqueue.trans hnone⟩)
      plain := List.forall_mem_singleton.2 fun _ => rfl
      order := ?_ }⟩
    · dsimp only
      rw [hstrand, List.append_nil]
    · simpa [hi, hqueue, hnone] using hturns
    · simpa [hqueue, hnone] using hwaiting
    · dsimp only
      rw [hslots, hfree]
      cases hb : b.state.free with
      | none => rfl
      | some n =>
        have hpos : 0 < n := by simpa [hasRoom, hb, hnone] using hroom
        simp [hi, hqueue, hnone]
        omega
    · dsimp only
      rw [hqueue, hnone]
      simpa [hi, hnone] using horder
  · rw [Crew.turn_of_done h.ready hplan] at hturn
    cases hturn
    refine ⟨told, [], is, { h with
      ready := ?_
      jobs := hjobs.trans h.jobs
      places := ⟨?_, ?_, ?_⟩
      full := fun _ => hfree.trans (h.free_of_no_room hroom)
      phase := .inr (.inl rfl)
      order := ?_ }⟩
    · simp
    · simpa [hi, hqueue] using hturns
    · simpa [hi, hqueue] using hwaiting
    · simpa [hi, hqueue, hfree] using hslots
    · dsimp only
      rw [hqueue, List.filter_append, List.filter_singleton, hguest]
      simpa using horder

/-- A job comes in both batches: it finds a slot free in both or in none. -/
theorem Abreast.arrives {i j : Nat} (h : g.Abreast V past past' told [] (i :: is) b c)
    (hij : g.number i = some j) (hturn : b.turn plan o.recording = some d) :
    ∃ e, c.turn plan o.recording = some e ∧ g.Along V past past' d e := by
  have hguest : g.isGuest i = false := by simp [isGuest, hij]
  obtain ⟨hturns, hwaiting, hslots⟩ := h.places
  have hready : c.ready = arriving j :: (is.filterMap g.number).map arriving := by
    simpa [hij] using hturns
  -- no guest holds a slot between two arrivals, so both batches have the same room
  have hfree' : c.state.free = b.state.free := by simpa using hslots
  have hqueue' : c.state.queue = b.state.queue.filterMap g.number := by simpa using hwaiting
  have horder := h.order
  rw [List.filter_cons_of_neg (by simp [hguest])] at horder
  obtain ⟨B, hjobs, hB⟩ := plan_arrival b.now i () b.state
  obtain ⟨C, hjobs', hC⟩ := plan_arrival c.now j () c.state
  rcases hB with ⟨hroom, hplan, hqueue, hfree⟩ | ⟨hroom, hplan, hqueue, hfree⟩
  · have hnone := h.queue_of_room hroom
    have hroom' : c.state.hasRoom = true := by
      simpa [hasRoom, hfree', hqueue', hnone] using hroom
    rcases hC with ⟨-, hplan', hqueue'', hfree''⟩ | ⟨hroom'', -⟩
    · rw [Crew.turn_of_done h.ready hplan] at hturn
      cases hturn
      refine ⟨_, Crew.turn_of_done hready hplan', ?_⟩
      obtain ⟨hstrand, hnoguest, hplain⟩ := jobStrand_of_number h.jobs h.others hij
      refine ⟨told, b.state.jobStrand i, is, { h with
        ready := ?_
        jobs := hjobs.trans h.jobs
        others := hjobs'.trans h.others
        places := ⟨?_, ?_, ?_⟩
        full := fun hne => absurd (hqueue.trans hnone) hne
        phase := ?_
        plain := hplain
        order := ?_ }⟩
      · simp
      · simp [hstrand, hqueue, hnone]
      · simp [hqueue, hnone, hqueue'', hqueue']
      · simp [hqueue, hnone, hfree, hfree', hfree'', hnoguest, Function.comp_def]
      · right
        unfold jobStrand
        cases b.state.jobs[i]? with
        | none => exact .inl rfl
        | some a => exact .inr ⟨⟨i, a, rfl⟩, hqueue.trans hnone⟩
      · simpa [hqueue, hnone, hnoguest] using horder
    · rw [hroom'] at hroom''
      cases hroom''
  · have hzero := h.free_of_no_room hroom
    have hroom' : c.state.hasRoom = false := by simp [hasRoom, hfree', hzero]
    rcases hC with ⟨hroom'', -⟩ | ⟨-, hplan', hqueue'', hfree''⟩
    · rw [hroom'] at hroom''
      cases hroom''
    · rw [Crew.turn_of_done h.ready hplan] at hturn
      cases hturn
      refine ⟨_, Crew.turn_of_done hready hplan', ?_⟩
      refine ⟨told, [], is, { h with
        ready := by simp
        jobs := hjobs.trans h.jobs
        others := hjobs'.trans h.others
        places := ⟨?_, ?_, ?_⟩
        full := fun _ => hfree.trans hzero
        phase := .inr (.inl rfl)
        order := ?_ }⟩
      · simp
      · simp [hqueue, hqueue'', hqueue', hij]
      · simp [hfree, hfree'', hfree']
      · simpa [hqueue, hguest] using horder

theorem Abreast.all_here {x : Strand Tag.Result} (h : g.Abreast V past past' told (x :: hs) is b c)
    (hx : (∃ i, x.tag = .entry i) ∨ b.state.queue ≠ []) : is = [] := by
  rcases h.phase with his | hhs | ⟨⟨k, a, hhs⟩, hqueue⟩
  · exact his
  · cases hhs
  · rcases hx with ⟨i, hi⟩ | hne
    · rw [List.head_eq_of_cons_eq hhs] at hi
      cases hi
    · exact absurd hqueue hne

/-- A job goes to its slot; a guest does so alone. -/
theorem Abreast.enters {i : Nat} (h : g.Abreast V past past' told (entering i :: hs) is b c)
    (hturn : b.turn plan o.recording = some d) :
    ∃ e, (e = c ∨ c.turn plan o.recording = some e) ∧ g.Along V past past' d e := by
  obtain ⟨-, hplain⟩ := List.forall_mem_cons.1 h.plain
  obtain rfl := h.all_here (.inl ⟨i, rfl⟩)
  obtain ⟨hturns, hwaiting, hslots⟩ := h.places
  obtain ⟨B, hplan, hjobs, hqueue, hfree⟩ := plan_entry b.now i () b.state
  rw [Crew.turn_of_done h.ready hplan] at hturn
  cases hturn
  have hfull : B.queue ≠ [] → B.free = some 0 := by
    rw [hqueue, hfree]
    exact h.full
  have horder := h.order
  cases hi : g.number i with
  | none =>
    -- the slot stays with the guest, and nothing can be seen of that in the other batch
    have hlt : i < g.all.length := h.lt_of_guest (.inl (by simp [hi]))
    have hstrand := jobStrand_of_guest h.jobs hlt hi
    refine ⟨c, .inl rfl, told, ⟨.job i, Batch.refused (g.lines i)⟩ :: hs, [], { h with
      ready := ?_
      jobs := hjobs.trans h.jobs
      places := ⟨?_, ?_, ?_⟩
      full := hfull
      phase := .inl rfl
      plain := List.forall_mem_cons.2 ⟨fun _ => rfl, hplain⟩
      order := ?_ }⟩
    · simp [hstrand]
    · simpa [hi, hqueue] using hturns
    · simpa [hi, hqueue] using hwaiting
    · simpa [hi, hqueue, hfree] using hslots
    · simpa [hi, hqueue] using horder
  | some j =>
    obtain ⟨hstrand, hnoguest, hplain'⟩ := jobStrand_of_number h.jobs h.others hi
    have hready : c.ready = entering j :: (hs.filterMap (counterpart g.number) ++
        ((b.state.queue.filterMap g.number).take (hs.filterMap (guest? g.number)).length).map
          entering) := by
      simpa [hi] using hturns
    obtain ⟨C, hplan', hjobs', hqueue', hfree'⟩ := plan_entry c.now j () c.state
    refine ⟨_, .inr (Crew.turn_of_done hready hplan'), told, b.state.jobStrand i ++ hs, [], { h with
      ready := ?_
      jobs := hjobs.trans h.jobs
      others := hjobs'.trans h.others
      places := ⟨?_, ?_, ?_⟩
      full := hfull
      phase := .inl rfl
      plain := List.forall_mem_append.2 ⟨hplain', hplain⟩
      order := ?_ }⟩
    · simp
    · simp [hstrand, hnoguest, hqueue]
    · simpa [hi, hnoguest, hqueue, hqueue'] using hwaiting
    · simpa [hi, hnoguest, hqueue, hfree, hfree'] using hslots
    · simpa [hi, hnoguest, hqueue] using horder

/-- What the end of a job leaves of the strands and the queue. -/
theorem Abreast.gives {x : Strand Tag.Result} (h : g.Abreast V past past' told (x :: hs) is b c)
    {B : Batch} (hqueue : B.queue = b.state.queue.tail)
    (hfree : B.free = if b.state.queue = [] then b.state.free.map (· + 1) else b.state.free) :
    hs ++ is.map arriving ++ (b.state.queue.take 1).map entering =
        hs ++ (b.state.queue.take 1).map entering ++ is.map arriving ∧
      (B.queue ≠ [] → B.free = some 0) ∧
        (is = [] ∨ hs ++ (b.state.queue.take 1).map entering = []) ∧
      (hs ++ (b.state.queue.take 1).map entering).filterMap (guest? g.number) ++
        B.queue.filter g.isGuest =
        hs.filterMap (guest? g.number) ++ b.state.queue.filter g.isGuest := by
  have hphase := h.phase
  have hfull := h.full
  have hhere : b.state.queue ≠ [] → is = [] := fun hne => h.all_here (.inr hne)
  cases hq : b.state.queue with
  | nil =>
    rw [hq] at hqueue
    refine ⟨by simp, fun hne => absurd hqueue hne, ?_, by simp [hqueue]⟩
    rcases hphase with his | hhs | ⟨⟨i, a, hhs⟩, -⟩
    · exact .inl his
    · cases hhs
    · exact .inr (by simp [(List.cons.inj hhs).2])
  | cons q queue =>
    rw [hq] at hqueue hfree hfull hhere
    obtain rfl := hhere (List.cons_ne_nil _ _)
    refine ⟨by simp, fun _ => hfree.trans (hfull (List.cons_ne_nil _ _)), .inl rfl, ?_⟩
    rw [hqueue]
    cases hn : g.number q with
    | none => simp [hn, isGuest]
    | some j => simp [hn, isGuest]

/-- A guest tells of its failure and gives its slot on: no turn of the batch without. -/
theorem Abreast.guest_ends {i : Nat} {a : Activity Bool} (ho : o.Deaf V)
    (h : g.Abreast V past past' told (⟨.job i, a⟩ :: hs) is b c) (hi : g.number i = none)
    (hturn : b.turn plan o.recording = some d) :
    g.Along V past past' d c := by
  obtain ⟨ha, hplain⟩ := List.forall_mem_cons.1 h.plain
  obtain rfl : a = Batch.refused (g.lines i) := ha hi
  have hadvance : (Batch.refused (g.lines i)).advance o.recording b.now b.surroundings =
    (.ended false,
      (o (.print (g.lines i)) b.now b.surroundings.1).state,
      b.surroundings.2 ++ [(b.now, .print (g.lines i))]) := by
    have hprompt := ho.prompt (g.lines i) b.now b.surroundings.1
    unfold Batch.refused
    rw [Activity.advance]
    exact if_pos hprompt
  obtain ⟨B, hplan, hjobs, hqueue, hfree⟩ := plan_job b.now i false b.state
  rw [Crew.turn_of_ended h.ready hadvance hplan] at hturn
  cases hturn
  obtain ⟨hready, hfull, hphase, hguests⟩ := h.gives hqueue hfree
  -- the other batch gave this slot on when it came to the guest's, so only the count of those still
  -- held changes
  have hplaces : Places g.number hs is b.state.queue b.state.free
      ((hs.filterMap (guest? g.number)).length + 1) c.ready c.state := by
    obtain ⟨hturns, hwaiting, hslots⟩ := h.places
    rw [List.filterMap_cons_some (guest?_of_none hi _)] at hturns hwaiting hslots
    exact ⟨by simpa [hi] using hturns, hwaiting, hslots⟩
  have hgiven := hplaces.given fun hne => h.all_here (.inr hne)
  rw [← hqueue, ← hfree] at hgiven
  refine ⟨told ++ [i], hs ++ (b.state.queue.take 1).map entering, is, { h with
    ready := hready
    jobs := hjobs.trans h.jobs
    places := hgiven
    full := hfull
    phase := hphase.imp_right .inl
    plain := List.forall_mem_append.2 ⟨hplain, ?_⟩
    order := ?_
    world := ho.unheard _ _ h.world
    log := h.log.fails b.now i }⟩
  · rw [List.forall_mem_map]
    exact fun q _ => rfl
  · have horder := h.order
    rw [List.filterMap_cons_some (guest?_of_none hi _)] at horder
    dsimp only
    rw [← horder, List.append_assoc (told ++ [i]), hguests]
    simp

theorem Abreast.next {i j : Nat} {a : Activity Bool}
    (h : g.Abreast V past past' told (⟨.job i, a⟩ :: hs) is b c) (hij : g.number i = some j) :
    ∃ ready, c.ready = ⟨.job j, a⟩ :: ready ∧
      Places g.number hs is b.state.queue b.state.free (hs.filterMap (guest? g.number)).length
        ready c.state ∧
      told ++ hs.filterMap (guest? g.number) ++ b.state.queue.filter g.isGuest ++
        is.filter g.isGuest = (List.range g.all.length).filter g.isGuest := by
  have hcounterpart : counterpart g.number ⟨.job i, a⟩ = some ⟨.job j, a⟩ := by simp [hij]
  obtain ⟨hturns, hwaiting, hslots⟩ := h.places
  have horder := h.order
  rw [List.filterMap_cons_none (guest?_of_some hij a)] at hturns hwaiting hslots horder
  rw [List.filterMap_cons_some hcounterpart] at hturns
  exact ⟨_, hturns, ⟨rfl, hwaiting, hslots⟩, horder⟩

theorem Abreast.advances (ho : o.Deaf V) (h : g.Abreast V past past' told hs is b c)
    {a : Activity Bool} {stage : Stage Bool} {w : σ × List (Instant × Effect)}
    (hadvance : a.advance o.recording b.now b.surroundings = (stage, w)) :
    ∃ w', a.advance o.recording c.now c.surroundings = (stage, w') ∧ V w.1 w'.1 ∧
      g.Records past past' told w.2 w'.2 := by
  obtain ⟨hstage, hworld, ms, hms, hms'⟩ := ho.advance a b.now h.world
  rw [hadvance] at hstage hworld hms
  rw [← h.now]
  refine ⟨(a.advance o.recording b.now c.surroundings).2, Prod.ext hstage.symm rfl, hworld, ?_⟩
  rw [hms, hms']
  exact h.log.more ms

/-- A job with a number ends in both batches, and its slot is given on. -/
theorem Abreast.ends {i j : Nat} {a : Activity Bool} (ho : o.Deaf V)
    (h : g.Abreast V past past' told (⟨.job i, a⟩ :: hs) is b c)
    (hij : g.number i = some j) {success : Bool} {w : σ × List (Instant × Effect)}
    (hadvance : a.advance o.recording b.now b.surroundings = (.ended success, w))
    (hturn : b.turn plan o.recording = some d) :
    ∃ e, c.turn plan o.recording = some e ∧ g.Along V past past' d e := by
  obtain ⟨-, hplain⟩ := List.forall_mem_cons.1 h.plain
  obtain ⟨w', hadvance', hworld, hlog⟩ := h.advances ho hadvance
  obtain ⟨B, hplan, hjobs, hqueue, hfree⟩ := plan_job b.now i success b.state
  obtain ⟨C, hplan', hjobs', hqueue', hfree'⟩ := plan_job c.now j success c.state
  rw [Crew.turn_of_ended h.ready hadvance hplan] at hturn
  cases hturn
  obtain ⟨hready, hfull, hphase, hguests⟩ := h.gives hqueue hfree
  obtain ⟨ready, hready', hplaces, horder⟩ := h.next hij
  have hgiven := (hplaces.give hqueue' hfree').given fun hne => h.all_here (.inr hne)
  rw [← hqueue, ← hfree] at hgiven
  refine ⟨_, Crew.turn_of_ended hready' hadvance' hplan', told,
    hs ++ (b.state.queue.take 1).map entering, is, { h with
    ready := hready
    jobs := hjobs.trans h.jobs
    others := hjobs'.trans h.others
    places := hgiven
    full := hfull
    phase := hphase.imp_right .inl
    plain := List.forall_mem_append.2 ⟨hplain, ?_⟩
    order := ?_
    world := hworld
    log := hlog }⟩
  · rw [List.forall_mem_map]
    exact fun q _ => rfl
  · dsimp only
    rw [← horder, List.append_assoc told, hguests]
    simp only [List.append_assoc]

theorem schedule_paired {x y : Alarm Tag.Result} (hxy : g.Paired x y)
    {as bs : List (Alarm Tag.Result)} (h : List.Forall₂ g.Paired as bs) :
    List.Forall₂ g.Paired (Crew.schedule x as) (Crew.schedule y bs) := by
  have hdue {x y : Alarm Tag.Result} (hxy : g.Paired x y) : x.due = y.due := by
    cases hxy
    rfl
  induction h with
  | nil => exact .cons hxy .nil
  | cons hab hrest ih =>
    rw [Crew.schedule, Crew.schedule, hdue hxy, hdue hab]
    split
    · exact .cons hxy (.cons hab hrest)
    · exact .cons hab ih

/-- A job with a number waits in both batches. -/
theorem Abreast.waits {i j : Nat} {a rest : Activity Bool} {delay : Nat} (ho : o.Deaf V)
    (h : g.Abreast V past past' told (⟨.job i, a⟩ :: hs) is b c) (hij : g.number i = some j)
    {w : σ × List (Instant × Effect)}
    (hadvance : a.advance o.recording b.now b.surroundings = (.waiting delay rest, w))
    (hturn : b.turn plan o.recording = some d) :
    ∃ e, c.turn plan o.recording = some e ∧ g.Along V past past' d e := by
  obtain ⟨-, hplain⟩ := List.forall_mem_cons.1 h.plain
  obtain ⟨w', hadvance', hworld, hlog⟩ := h.advances ho hadvance
  rw [Crew.turn_of_waiting h.ready hadvance] at hturn
  cases hturn
  obtain ⟨ready, hready', hplaces, horder⟩ := h.next hij
  have hphase : is = [] ∨ hs = [] := by
    rcases h.phase with his | hhs | ⟨⟨k, a, hhs⟩, -⟩
    · exact .inl his
    · cases hhs
    · exact .inr (List.cons.inj hhs).2
  have halarm : g.Paired ⟨b.now + delay, ⟨.job i, rest⟩⟩ ⟨c.now + delay, ⟨.job j, rest⟩⟩ := by
    rw [← h.now]
    exact .mk _ rest hij
  exact ⟨_, Crew.turn_of_waiting hready' hadvance', told, hs, is, { h with
    ready := rfl
    places := hplaces
    phase := hphase.imp_right .inl
    plain := hplain
    alarms := schedule_paired halarm h.alarms
    order := horder
    world := hworld
    log := hlog }⟩

/-- Alarms that go off together ready one job in both batches, and no guest. -/
theorem paired_due (limit : Instant) {as bs : List (Alarm Tag.Result)}
    (h : List.Forall₂ g.Paired as bs) :
    let xs := (as.takeWhile (·.due ≤ limit)).map (·.strand)
    xs.filterMap (counterpart g.number) = (bs.takeWhile (·.due ≤ limit)).map (·.strand) ∧
      xs.filterMap (guest? g.number) = [] ∧ (∀ x ∈ xs, g.Plain x) ∧
      List.Forall₂ g.Paired (as.dropWhile (·.due ≤ limit)) (bs.dropWhile (·.due ≤ limit)) := by
  induction h with
  | nil => exact ⟨rfl, rfl, List.forall_mem_nil _, .nil⟩
  | cons hab hrest ih =>
    cases hab with
    | @mk due i j a hij =>
      rw [List.takeWhile_cons, List.takeWhile_cons, List.dropWhile_cons, List.dropWhile_cons]
      split
      · obtain ⟨hcounterparts, hguests, hplain, hlater⟩ := ih
        refine ⟨?_, ?_, List.forall_mem_cons.2 ⟨fun hi => ?_, hplain⟩, hlater⟩
        · rw [List.map_cons, List.filterMap_cons_some
            (by simp [hij] : counterpart g.number ⟨.job i, a⟩ = some ⟨.job j, a⟩),
            hcounterparts, List.map_cons]
        · rw [List.map_cons, List.filterMap_cons_none (guest?_of_some hij a), hguests]
        · rw [hij] at hi
          cases hi
      · exact ⟨rfl, rfl, List.forall_mem_nil _, .cons (.mk due a hij) hrest⟩

/-- The clock moves on in both batches. -/
theorem Abreast.wakes (h : g.Abreast V past past' told [] [] b c)
    (hturn : b.turn plan o.recording = some d) :
    ∃ e, c.turn plan o.recording = some e ∧ g.Along V past past' d e := by
  obtain ⟨hturns, hwaiting, hslots⟩ := h.places
  have hready' : c.ready = [] := hturns
  have halarms := h.alarms
  cases hb : b.alarms with
  | nil =>
    unfold Crew.turn at hturn
    rw [h.ready, hb] at hturn
    cases hturn
  | cons x as =>
    rw [Crew.turn_of_idle h.ready (by simp [hb])] at hturn
    cases hturn
    cases hc : c.alarms with
    | nil =>
      rw [hb, hc] at halarms
      cases halarms
    | cons y bs =>
      -- the next alarms are of one job, so both clocks go to the same instant
      have hdue : x.due = y.due := by
        rw [hb, hc] at halarms
        cases halarms with
        | cons hxy _ =>
          cases hxy
          rfl
      obtain ⟨hcounterparts, hguests, hplain, hlater⟩ := paired_due x.due halarms
      refine ⟨_, Crew.turn_of_idle hready' (by simp [hc]), ?_⟩
      rw [Crew.wake_of_cons hb, Crew.wake_of_cons hc, ← hdue]
      have hplaces : Places g.number ((b.alarms.takeWhile (·.due ≤ x.due)).map (·.strand)) []
          b.state.queue b.state.free 0
          ((c.alarms.takeWhile (·.due ≤ x.due)).map (·.strand)) c.state :=
        ⟨by rw [hcounterparts]; simp, hwaiting, hslots⟩
      refine ⟨told, (b.alarms.takeWhile (·.due ≤ x.due)).map (·.strand), [], { h with
        now := rfl
        ready := (List.append_nil _).symm
        places := by rwa [hguests]
        phase := .inl rfl
        plain := hplain
        alarms := hlater
        order := ?_ }⟩
      rw [hguests]
      exact h.order

/-- Each turn of the batch with guests is one of the batch without, or none. -/
theorem Along.turn (ho : o.Deaf V) (h : g.Along V past past' b c)
    (hturn : b.turn plan o.recording = some d) :
    ∃ e, (e = c ∨ c.turn plan o.recording = some e) ∧ g.Along V past past' d e := by
  obtain ⟨told, hs, is, h⟩ := h
  cases hs with
  | nil =>
    cases is with
    | nil =>
      obtain ⟨e, he, hde⟩ := h.wakes hturn
      exact ⟨e, .inr he, hde⟩
    | cons i is =>
      cases hi : g.number i with
      | none => exact ⟨c, .inl rfl, h.guest_arrives hi hturn⟩
      | some j =>
        obtain ⟨e, he, hde⟩ := h.arrives hi hturn
        exact ⟨e, .inr he, hde⟩
  | cons x hs =>
    obtain ⟨t, a⟩ := x
    obtain ⟨hplain, -⟩ := List.forall_mem_cons.1 h.plain
    -- those that have yet to come are counted apart
    cases t with
    | arrival i => exact hplain.elim
    | entry i =>
      obtain rfl : a = .done () := hplain
      exact h.enters hturn
    | job i =>
      cases hi : g.number i with
      | none => exact ⟨c, .inl rfl, h.guest_ends ho hi hturn⟩
      | some j =>
        cases hadvance : a.advance o.recording b.now b.surroundings with
        | mk stage w =>
          cases stage with
          | ended success =>
            obtain ⟨e, he, hde⟩ := h.ends ho hi hadvance hturn
            exact ⟨e, .inr he, hde⟩
          | waiting delay rest =>
            obtain ⟨e, he, hde⟩ := h.waits ho hi hadvance hturn
            exact ⟨e, .inr he, hde⟩

variable {cap : Option Nat}

theorem along_opened
    (hnumber : (List.range g.all.length).filterMap g.number = List.range g.others.length)
    {u u' : σ} (hworld : V u u') (now : Instant) :
    g.Along V past past' (opened g.all cap now (u, past))
      (opened g.others cap now (u', past')) := by
  refine ⟨[], [], List.range g.all.length, {
    now := rfl
    ready := rfl
    jobs := rfl
    others := rfl
    places := ⟨?_, rfl, ?_⟩
    full := fun hne => absurd rfl hne
    phase := .inr (.inl rfl)
    plain := List.forall_mem_nil _
    alarms := .nil
    order := ?_
    world := hworld
    log := ⟨[], [], [], (List.append_nil _).symm, (List.append_nil _).symm, .nil, rfl⟩ }⟩
  · rw [hnumber]
    simp [opened, opening, create, arriving]
  · cases cap <;> rfl
  · simp [opened, create]

theorem Along.steps (ho : o.Deaf V) (hcap : ∀ n, cap = some n → 0 < n)
    (h : g.Along V past past' b c) (hc : Reached g.others cap c)
    (hsteps : Crew.Steps plan o.recording finished b d) :
    ∃ e, Crew.Steps plan o.recording finished c e ∧ Reached g.others cap e ∧
      g.Along V past past' d e := by
  -- on the turns of the batch with guests, at some of which the other one stands still
  induction hsteps with
  | refl => exact ⟨c, .refl, hc, h⟩
  | tail _ hstep ih =>
    obtain ⟨e, hsteps, he, halong⟩ := ih
    obtain ⟨e', rfl | hturn, halong'⟩ := halong.turn ho hstep.2
    · exact ⟨e', hsteps, he, halong'⟩
    · exact ⟨e', hsteps.tail (he.turns hcap hturn), he.turn hturn, halong'⟩

/-- Both batches end together, and by then each guest has told of its failure. -/
theorem Along.ended (h : g.Along V past past' b c) (hcap : ∀ n, cap = some n → 0 < n)
    (hb : Reached g.all cap b) (hc : Reached g.others cap c) (hfinished : b.state.finished = true) :
    c.state.finished = true ∧ b.now = c.now ∧ V b.surroundings.1 c.surroundings.1 ∧
      g.Records past past' ((List.range g.all.length).filter g.isGuest)
        b.surroundings.2 c.surroundings.2 := by
  obtain ⟨told, hs, is, h⟩ := h
  obtain ⟨hready, halarms⟩ := Crew.strands_eq_zero.1 ((hb.finished_iff hcap).1 hfinished)
  have hqueue := hb.queue hfinished
  obtain ⟨rfl, his⟩ := List.append_eq_nil_iff.1 (h.ready.symm.trans hready)
  obtain rfl := List.map_eq_nil_iff.1 his
  have horder := h.order
  rw [hqueue] at horder
  -- with no strand and no queue left, all the guests there are have been told of
  obtain rfl : told = (List.range g.all.length).filter g.isGuest := by simpa using horder
  have hnone := h.alarms
  rw [halarms] at hnone
  have hend : c.ready = [] ∧ c.alarms = [] := ⟨h.places.turns, List.forall₂_nil_left_iff.1 hnone⟩
  exact ⟨(hc.finished_iff hcap).2 (Crew.strands_eq_zero.2 hend), h.now, h.world, h.log⟩

end Guests

/-- The jobs of a list into which others have been put that do nothing but fail. -/
def Guests.among {ι : Type} {f : Nat → Option Nat} {xs ys zs : List ι}
    (hf : Numbering f xs ys zs) (job : ι → Activity Bool) (tale : ι → List Line)
    (hys : ∀ y ∈ ys, job y = Batch.refused (tale y)) : Guests where
  all := zs.map job
  others := xs.map job
  number := f
  lines i := (zs[i]?.map tale).getD []
  same i j hij := by rw [List.getElem?_map, List.getElem?_map, hf.same i j hij]
  refused i hi hnone := by
    rw [List.length_map] at hi
    have hmem : zs[i] ∈ ys := hf.mem_right hi hnone
    rw [List.getElem?_map, List.getElem?_eq_getElem hi]
    simp [hys _ hmem]

/-- A batch into which jobs have been put that do nothing but fail goes on as the batch without
them, and ends at the same time; all that it records besides is that these have failed, each one
once and in order. -/
theorem ends_with_guests {ι σ : Type} {V : σ → σ → Prop} {o : Outside σ}
    (ho : o.Deaf V) {cap : Option Nat} (hcap : ∀ n, cap = some n → 0 < n)
    {xs ys zs : List ι} (hzs : Interleaves xs ys zs) (job : ι → Activity Bool)
    (tale : ι → List Line) (hys : ∀ y ∈ ys, job y = refused (tale y))
    {u u' : σ} (hworld : V u u') (now : Instant) (past past' : List (Instant × Effect)) :
    ∃ b c, Crew.Steps plan o.recording finished (opened (zs.map job) cap now (u, past)) b ∧
      Crew.Steps plan o.recording finished (opened (xs.map job) cap now (u', past')) c ∧
      (Reached (zs.map job) cap b ∧ b.state.finished = true) ∧
      (Reached (xs.map job) cap c ∧ c.state.finished = true) ∧
      b.now = c.now ∧ V b.surroundings.1 c.surroundings.1 ∧ ∃ done rest failures,
        b.surroundings.2 = past ++ done ∧ c.surroundings.2 = past' ++ rest ∧
          Interleaves rest failures done ∧
          failures.map Prod.snd = ys.map fun y => .print (tale y) := by
  obtain ⟨f, hf⟩ := hzs.exists_numbering
  let g := Guests.among hf job tale hys
  have hnumber : (List.range g.all.length).filterMap g.number = List.range g.others.length := by
    simpa [g, Guests.among] using hf.left
  have hopened : g.Along V past past' (opened g.all cap now (u, past))
      (opened g.others cap now (u', past')) :=
    Guests.along_opened hnumber hworld now
  obtain ⟨b, hb, hreached, hfinished⟩ := exists_finished hcap o.recording reached_opened
  obtain ⟨c, hc, hreached', halong⟩ := hopened.steps ho hcap reached_opened hb
  obtain ⟨hfinished', hnow, hworld', done, rest, failures, hdone, hrest, hwoven, hfailures⟩ :=
    halong.ended hcap hreached hreached' hfinished
  refine ⟨b, c, hb, hc, ⟨hreached, hfinished⟩, ⟨hreached', hfinished'⟩, hnow, hworld',
    done, rest, failures, hdone, hrest, hwoven, ?_⟩
  have hplaces : (List.range g.all.length).filter g.isGuest =
      (List.range zs.length).filter fun i => (f i).isNone := by
    rw [show g.all.length = zs.length from List.length_map _]
    rfl
  rw [hfailures, hplaces, ← hf.right, List.map_filterMap, ← List.filterMap_eq_map]
  refine List.filterMap_congr fun i hi => ?_
  have hlt : i < zs.length := List.mem_range.1 (List.mem_filter.1 hi).1
  simp [g, Guests.among, hlt]

end TestWorker.Batch
