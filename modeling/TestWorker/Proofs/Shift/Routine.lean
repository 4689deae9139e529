import TestWorker.Proofs.Shift.Account

namespace TestWorker

variable {τ S : Type} {ρ : τ → Type}

def Signal.cycle? : Signal → Option Nat
  | .stop => none
  | .cycleEnded n _ => some n

namespace Routine

/-- Runs of a routine: the cycles that have begun and those whose end has been told, the ends of
strands, the latest first, the state and the strands that are left. A cycle may begin at any
time. -/
inductive Runs (R : Routine ρ S) (w₀ : S) :
    Multiset Nat → Multiset Nat → List (Ending ρ) → S → Multiset (Strand ρ) → Prop
  | start : Runs R w₀ 0 0 [] w₀ 0
  | begin {b e log w xs} (n : Nat) : Runs R w₀ b e log w xs → n ∉ b →
    Runs R w₀ (n ::ₘ b) e log (R.begin n w).state ((R.begin n w).strands + xs)
  | wait {b e log w t x y xs} : Runs R w₀ b e log w (⟨t, x⟩ ::ₘ xs) → Activity.Later y x →
    Runs R w₀ b e log w (⟨t, y⟩ ::ₘ xs)
  | turn {b e log w t r xs} (now : Instant) : Runs R w₀ b e log w (⟨t, .done r⟩ ::ₘ xs) →
    Runs R w₀ b (((R.react now t r w).2.filterMap Signal.cycle? : List Nat) + e)
      (⟨now, t, r, (R.react now t r w).1.strands⟩ :: log) (R.react now t r w).1.state
      ((R.react now t r w).1.strands + xs)

/-- The ends that are told are of cycles that have begun, and each is told once. -/
def Honest (R : Routine ρ S) (w₀ : S) : Prop :=
  ∀ ⦃b e log w xs⦄, Runs R w₀ b e log w xs → e ≤ b

end Routine

namespace Shift

def inner? : Strand (Tag.Result ρ) → Option (Strand ρ)
  | ⟨.inner t, a⟩ => some ⟨t, a⟩
  | _ => none

def innerEnding? : Ending (Tag.Result ρ) → Option (Ending ρ)
  | ⟨now, .inner t, r, follows⟩ => some ⟨now, t, r, follows.filterMap inner?⟩
  | _ => none

def lift (s : Shift S) (x : Reaction ρ S) : Reaction (Tag.Result ρ) (Shift S) where
  state := { s with work := x.state }
  first := x.first.map inner
  later := x.later.map inner

theorem strands_lift (s : Shift S) (x : Reaction ρ S) :
    (lift s x).strands = x.strands.map inner := by
  simp [lift, Reaction.strands]

theorem inner?_lift (s : Shift S) (x : Reaction ρ S) :
    (lift s x).strands.filterMap inner? = x.strands := by
  rw [strands_lift, Multiset.filterMap_map]
  exact Multiset.filterMap_some _

theorem filterMap_tags_lift {β : Type} {f : Tag τ → Option β}
    (hf : ∀ t, f (.inner t) = none) (s : Shift S) (x : Reaction ρ S) :
    (lift s x).tags.filterMap f = 0 := by
  rw [Reaction.tags, strands_lift]
  induction x.strands using Multiset.induction with
  | empty => rfl
  | cons y ys ih =>
    have hy : f (inner y).tag = none := hf y.tag
    rw [Multiset.map_cons, tags_cons, Multiset.filterMap_cons_none _ _ hy]
    exact ih

theorem inner?_obey (c : Console) (oneShot : Bool) (k : Schedule.Command) :
    (obey (ρ := ρ) c oneShot k).1.filterMap inner? = [] ∧
      (obey (ρ := ρ) c oneShot k).2.filterMap inner? = [] := by
  cases k <;> exact ⟨rfl, rfl⟩

theorem inner?_follow (c : Console) (s : Shift S) (x : Schedule × List Schedule.Command) :
    (follow (ρ := ρ) c s x).strands.filterMap inner? = 0 := by
  have hfirst : (follow (ρ := ρ) c s x).first.filterMap inner? = [] := by
    rw [follow, List.filterMap_flatMap]
    exact List.flatMap_eq_nil_iff.2 fun k _ => (inner?_obey c _ k).1
  have hlater : (follow (ρ := ρ) c s x).later.filterMap inner? = [] := by
    rw [follow, List.filterMap_flatMap]
    exact List.flatMap_eq_nil_iff.2 fun k _ => (inner?_obey c _ k).2
  rw [Reaction.strands, Multiset.filterMap_add, Multiset.filterMap_coe, Multiset.filterMap_coe,
    hfirst, hlater]
  rfl

/-- What signals may change of a turn: they leave the work and the strands of the routine alone, and
each end that they tell makes a strand with which a cycle ends. -/
structure Heeded (told : Multiset Nat) (x y : Reaction (Tag.Result ρ) (Shift S)) : Prop where
  work : y.state.work = x.state.work
  inner : y.strands.filterMap inner? = x.strands.filterMap inner?
  openings : openings y.tags = openings x.tags
  closings : closings y.tags = told + closings x.tags
  account {frequency begun ended ts} : Account frequency begun ended x.state (x.tags + ts) →
    Account frequency begun ended y.state (y.tags + ts)

theorem Heeded.trans {told told' : Multiset Nat} {x y z : Reaction (Tag.Result ρ) (Shift S)}
    (hxy : Heeded told x y) (hyz : Heeded told' y z) : Heeded (told + told') x z where
  work := hyz.work.trans hxy.work
  inner := hyz.inner.trans hxy.inner
  openings := hyz.openings.trans hxy.openings
  closings := by rw [hyz.closings, hxy.closings, add_left_comm, add_assoc]
  account h := hyz.account (hxy.account h)

theorem called_stop (s : Schedule) :
    openings (called (τ := τ) s.stop.2) = 0 ∧ closings (called (τ := τ) s.stop.2) = 0 := by
  simp only [Schedule.stop]
  split <;> simp [Tag.ofCommand, Tag.opening?, Tag.closing?]

theorem strands_heed_stop (c : Console) (x : Reaction (Tag.Result ρ) (Shift S)) :
    (heed c x .stop).strands = (follow c x.state x.state.schedule.stop).strands + x.strands := by
  simp only [heed, Reaction.strands, ← Multiset.coe_add]
  rw [add_add_add_comm, add_comm]

theorem strands_heed_cycleEnded (c : Console) (x : Reaction (Tag.Result ρ) (Shift S))
    (n : Nat) (outcome : Except Fault Unit) :
    ∃ lines, (heed c x (.cycleEnded n outcome)).strands =
      ⟨.closing n, Activity.print lines⟩ ::ₘ x.strands := by
  obtain ⟨lines, hlines⟩ : ∃ lines, heed c x (.cycleEnded n outcome) =
      { x with first := x.first ++ [⟨.closing n, Activity.print lines⟩] } := ⟨_, rfl⟩
  refine ⟨lines, ?_⟩
  rw [hlines, Reaction.strands, Reaction.strands, ← Multiset.coe_add, add_right_comm,
    Multiset.coe_singleton, add_comm, Multiset.singleton_add]

theorem heeded_stop (c : Console) (x : Reaction (Tag.Result ρ) (Shift S)) :
    Heeded 0 x (heed c x .stop) := by
  have hstrands := strands_heed_stop c x
  have htags : (heed c x .stop).tags = called x.state.schedule.stop.2 + x.tags := by
    rw [← tags_follow c x.state, Reaction.tags, hstrands, tags_add]
    rfl
  obtain ⟨hopenings, hclosings⟩ := called_stop (τ := τ) x.state.schedule
  refine ⟨rfl, ?_, ?_, ?_, fun h => ?_⟩
  · rw [hstrands, Multiset.filterMap_add, inner?_follow, zero_add]
  · simp only [htags, Multiset.filterMap_add, hopenings, zero_add]
  · simp only [htags, Multiset.filterMap_add, hclosings]
  · have hstop := h.stop
    rw [Account.Obeyed, hopenings, zero_add, ← add_assoc, ← htags] at hstop
    exact hstop

theorem heeded_cycleEnded (c : Console) (x : Reaction (Tag.Result ρ) (Shift S)) (n : Nat)
    (outcome : Except Fault Unit) : Heeded {n} x (heed c x (.cycleEnded n outcome)) := by
  obtain ⟨lines, ha⟩ := strands_heed_cycleEnded c x n outcome
  have htags : (heed c x (.cycleEnded n outcome)).tags = .closing n ::ₘ x.tags := by
    rw [Reaction.tags, ha, tags_cons]
    rfl
  refine ⟨rfl, ?_, ?_, ?_, fun h => ?_⟩
  · rw [ha]
    exact Multiset.filterMap_cons_none _ _ rfl
  · simp [htags, Tag.opening?]
  · simp [htags, Tag.closing?]
  · rw [htags, Multiset.cons_add]
    exact h.exchange (by simp [Tag.control?]) (by simp)

theorem heeded_foldl (c : Console) (signals : List Signal) (x : Reaction (Tag.Result ρ) (Shift S)) :
    Heeded (signals.filterMap Signal.cycle? : List Nat) x (signals.foldl (heed c) x) := by
  induction signals generalizing x with
  | nil => exact ⟨rfl, rfl, rfl, by simp, id⟩
  | cons signal signals ih =>
    have h : Heeded (signal.cycle?.toList : List Nat) x (heed c x signal) := by
      cases signal with
      | stop => exact heeded_stop c x
      | cycleEnded n outcome => exact heeded_cycleEnded c x n outcome
    have htold : (List.filterMap Signal.cycle? (signal :: signals) : Multiset Nat) =
        (signal.cycle?.toList : List Nat) + (signals.filterMap Signal.cycle? : List Nat) := by
      cases signal <;> rfl
    exact htold ▸ h.trans (ih _)

/-- The cycles that have begun: a turn led to their first strands. -/
def begunIn (log : List (Ending (Tag.Result ρ))) : Multiset Nat :=
  (log.map fun x => openings x.tags).sum

def openedIn (log : List (Ending (Tag.Result ρ))) : Multiset Nat :=
  log.filterMap fun x => x.tag.opening?

/-- The cycles whose end the routine has told. -/
def toldIn (log : List (Ending (Tag.Result ρ))) : Multiset Nat :=
  (log.map fun x => closings x.tags).sum

def endedIn (log : List (Ending (Tag.Result ρ))) : Multiset Nat :=
  log.filterMap fun x => x.tag.closing?

def fresh (frequency maxTime : Int) (w₀ : S) : Shift S :=
  { schedule := { frequency, maxTime }, work := w₀ }

def opening (stops : List (Nat × List Line)) : Multiset (Strand (Tag.Result ρ)) :=
  runStrand ::ₘ (stops.map fun x => stopStrand x.1 x.2 : List (Strand (Tag.Result ρ)))

/-- What holds throughout the runs of a shift. -/
structure Sound (R : Routine ρ S) (w₀ : S) (frequency : Int) (log : List (Ending (Tag.Result ρ)))
    (s : Shift S) (xs : Multiset (Strand (Tag.Result ρ))) : Prop where
  account : Account frequency (begunIn log) (endedIn log) s (tags xs)
  routine : Routine.Runs R w₀ (openedIn log) (toldIn log) (log.filterMap innerEnding?) s.work
    (xs.filterMap inner?)
  opened : openedIn log + openings (tags xs) = begunIn log
  closed : endedIn log + closings (tags xs) = toldIn log

variable {R : Routine ρ S} {w₀ : S} {frequency : Int} {log : List (Ending (Tag.Result ρ))}
  {s : Shift S} {xs : Multiset (Strand (Tag.Result ρ))}

theorem Sound.card_le (h : Sound R w₀ frequency log s xs) (hR : R.Honest w₀) :
    (endedIn log).card + (closings (tags xs)).card ≤ (begunIn log).card := by
  have hhonest := Multiset.card_le_card (hR h.routine)
  rw [← h.opened, ← Multiset.card_add, h.closed, Multiset.card_add]
  omega

@[simp] theorem begunIn_cons (e : Ending (Tag.Result ρ)) (log : List (Ending (Tag.Result ρ))) :
    begunIn (e :: log) = openings e.tags + begunIn log := rfl

@[simp] theorem toldIn_cons (e : Ending (Tag.Result ρ)) (log : List (Ending (Tag.Result ρ))) :
    toldIn (e :: log) = closings e.tags + toldIn log := rfl

@[simp] theorem openedIn_cons (e : Ending (Tag.Result ρ)) (log : List (Ending (Tag.Result ρ))) :
    openedIn (e :: log) = (e.tag.opening?.toList : Multiset Nat) + openedIn log :=
  coe_filterMap_cons _ _ _

@[simp] theorem endedIn_cons (e : Ending (Tag.Result ρ)) (log : List (Ending (Tag.Result ρ))) :
    endedIn (e :: log) = (e.tag.closing?.toList : Multiset Nat) + endedIn log :=
  coe_filterMap_cons _ _ _

theorem closings_called (ks : List Schedule.Command) : closings (called (τ := τ) ks) = 0 := by
  induction ks with
  | nil => rfl
  | cons k ks ih => cases k <;> simpa [Tag.ofCommand, Tag.closing?] using ih

/-- A strand ends. That each cycle which has begun is opened or about to be, and each whose end has
been told is closed or about to be, needs no more than the counts of strands; the account and the
run of the routine are left to show. -/
theorem Sound.turn {t : Tag τ} {r : Tag.Result ρ t} {now : Instant}
    {y : Reaction (Tag.Result ρ) (Shift S)} (h : Sound R w₀ frequency log s (⟨t, .done r⟩ ::ₘ xs))
    (haccount : Account frequency (openings y.tags + begunIn log)
      ((t.closing?.toList : Multiset Nat) + endedIn log) y.state (y.tags + tags xs))
    (hroutine : Routine.Runs R w₀ ((t.opening?.toList : Multiset Nat) + openedIn log)
      (closings y.tags + toldIn log) (List.filterMap innerEnding? (⟨now, t, r, y.strands⟩ :: log))
      y.state.work (y.strands.filterMap inner? + xs.filterMap inner?)) :
    Sound R w₀ frequency (⟨now, t, r, y.strands⟩ :: log) y.state (y.strands + xs) := by
  have htags : (⟨now, t, r, y.strands⟩ : Ending (Tag.Result ρ)).tags = y.tags := rfl
  have hall : tags (y.strands + xs) = y.tags + tags xs := tags_add _ _
  have hopened := h.opened
  have hclosed := h.closed
  rw [tags_cons] at hopened hclosed
  refine ⟨?_, ?_, ?_, ?_⟩
  · rw [begunIn_cons, endedIn_cons, htags, hall]
    exact haccount
  · rw [openedIn_cons, toldIn_cons, htags, Multiset.filterMap_add]
    exact hroutine
  · rw [openedIn_cons, begunIn_cons, htags, hall, ← hopened]
    simp [add_left_comm, add_assoc]
  · rw [endedIn_cons, toldIn_cons, htags, hall, ← hclosed]
    simp [add_left_comm, add_assoc]

/-- A strand of the schedule itself ends: commands are obeyed, and the routine is as before. -/
theorem Sound.follow {now : Instant} {t : Tag τ} {r : Tag.Result ρ t} (c : Console) (s' : Shift S)
    (x : Schedule × List Schedule.Command) (h : Sound R w₀ frequency log s (⟨t, .done r⟩ ::ₘ xs))
    (hwork : s'.work = s.work) (hopening : t.opening? = none)
    (hinner : ∀ follows, innerEnding? ⟨now, t, r, follows⟩ = none)
    (hx : Account.Obeyed frequency (begunIn log)
      ((t.closing?.toList : Multiset Nat) + endedIn log) s' (tags xs) x) :
    Sound R w₀ frequency (⟨now, t, r, (follow c s' x).strands⟩ :: log) { s' with schedule := x.1 }
      ((follow c s' x).strands + xs) := by
  have htags : (Shift.follow (ρ := ρ) c s' x).tags = called x.2 := tags_follow c s' x
  have hnone : (⟨t, .done r⟩ ::ₘ xs).filterMap inner? = xs.filterMap inner? := by
    refine Multiset.filterMap_cons_none _ _ ?_
    have := hinner 0
    cases t <;> simp_all [inner?, innerEnding?]
  refine h.turn (y := Shift.follow c s' x) ?_ ?_
  · rw [htags]
    exact hx
  · have hsame : (Shift.follow (ρ := ρ) c s' x).state.work = s.work := hwork
    have hroutine := h.routine
    rw [hnone] at hroutine
    rw [htags, closings_called, hopening, inner?_follow, List.filterMap_cons_none (hinner _), hsame]
    simpa using hroutine

theorem account_lift {begun ended : Multiset Nat} {t : Tag τ} {ts : Multiset (Tag τ)}
    (h : Account frequency begun ended s (t ::ₘ ts)) (ht : t.control? = none) (hne : t ≠ .interval)
    (x : Reaction ρ S) : Account frequency begun ended (lift s x).state ((lift s x).tags + ts) := by
  have hcontrols : controls (lift s x).tags = 0 := filterMap_tags_lift (fun _ => rfl) s x
  have hexchange : Account frequency begun ended s ((lift s x).tags + ts) := h.exchange
    (by simp [Multiset.filterMap_add, hcontrols, ht]) (by simp [hne.symm]; exact .inr)
  exact ⟨hexchange.toCounts, hexchange.awaited, hexchange.suits⟩

/-- A cycle begins: the strands of the routine that it starts with are added. -/
theorem Sound.begin {n : Nat} {r : Unit} {now : Instant}
    (h : Sound R w₀ frequency log s (⟨.opening n, .done r⟩ ::ₘ xs)) :
    let x := lift { s with schedule := s.schedule.note now n true } (R.begin n s.work)
    Sound R w₀ frequency (⟨now, .opening n, r, x.strands⟩ :: log) x.state (x.strands + xs) := by
  intro x
  have haccount := h.account
  have hopened := h.opened
  rw [tags_cons] at haccount hopened
  have hopenings : openings x.tags = 0 := filterMap_tags_lift (fun _ => rfl) _ _
  have hclosings : closings x.tags = 0 := filterMap_tags_lift (fun _ => rfl) _ _
  -- its number is new, for all cycles that have begun have numbers of their own
  have hnew : n ∉ openedIn log := by
    have hnodup := nodup_numbers s.schedule.begun
    rw [← haccount.begun, ← hopened] at hnodup
    intro hmem
    exact Multiset.disjoint_left.1 (Multiset.nodup_add.1 hnodup).2.2 hmem (by simp [Tag.opening?])
  refine h.turn ?_ ?_
  · have hnote : Account frequency (begunIn log) (endedIn log)
        { s with schedule := s.schedule.note now n true } (.opening n ::ₘ tags xs) :=
      ⟨⟨haccount.frequency, haccount.begun, haccount.ended, haccount.inFlight, haccount.drained⟩,
        haccount.awaited, haccount.suits⟩
    rw [hopenings]
    simpa [Tag.closing?] using account_lift hnote rfl (by simp) (R.begin n s.work)
  · have hroutine := h.routine
    rw [Multiset.filterMap_cons_none _ _ rfl] at hroutine
    rw [hclosings, inner?_lift, List.filterMap_cons_none rfl]
    simpa [Tag.opening?, x, lift] using hroutine.begin n hnew

/-- A strand of the routine ends. -/
theorem Sound.react {c : Console} {t : τ} {r : ρ t} {now : Instant}
    (h : Sound R w₀ frequency log s (⟨.inner t, .done r⟩ ::ₘ xs)) :
    let y := (R.react now t r s.work).2.foldl (heed c) (lift s (R.react now t r s.work).1)
    Sound R w₀ frequency (⟨now, .inner t, r, y.strands⟩ :: log) y.state (y.strands + xs) := by
  intro y
  have hy : Heeded _ _ y :=
    heeded_foldl c (R.react now t r s.work).2 (lift s (R.react now t r s.work).1)
  have haccount := h.account
  rw [tags_cons] at haccount
  have hopenings : openings y.tags = 0 := hy.openings.trans (filterMap_tags_lift (fun _ => rfl) _ _)
  have hclosings : closings y.tags =
      ((R.react now t r s.work).2.filterMap Signal.cycle? : List Nat) := by
    rw [hy.closings, closings, filterMap_tags_lift fun _ => rfl, add_zero]
  refine h.turn ?_ ?_
  · rw [hopenings]
    simpa [Tag.closing?] using hy.account
      (account_lift haccount rfl (by simp) (R.react now t r s.work).1)
  · have hinner : y.strands.filterMap inner? = (R.react now t r s.work).1.strands :=
      hy.inner.trans (inner?_lift _ _)
    have hlog : innerEnding? (⟨now, .inner t, r, y.strands⟩ : Ending (Tag.Result ρ)) =
        some ⟨now, t, r, (R.react now t r s.work).1.strands⟩ := by
      rw [← hinner]; rfl
    have hbefore :
        (⟨.inner t, .done r⟩ ::ₘ xs : Multiset (Strand (Tag.Result ρ))).filterMap inner? =
        ⟨t, .done r⟩ ::ₘ xs.filterMap inner? := Multiset.filterMap_cons_some _ _ _ rfl
    rw [hclosings, hinner, List.filterMap_cons_some hlog, hy.work]
    simpa [Tag.opening?] using (hbefore ▸ h.routine).turn now

/-- What a turn is for the routine: nothing, the beginning of a cycle, or the end of one of its
strands. -/
theorem inner_plan (c : Console) (R : Routine ρ S) (now : Instant)
    (t : Tag τ) (r : Tag.Result ρ t) (s : Shift S) :
    let y := plan c R now t r s
    (y.state.work = s.work ∧ y.strands.filterMap inner? = 0) ∨
      ∃ x : Reaction ρ S,
        ((∃ n, x = R.begin n s.work) ∨ ∃ t' r', x = (R.react now t' r' s.work).1) ∧
        y.state.work = x.state ∧ y.strands.filterMap inner? = x.strands := by
  cases t with
  | run => exact .inl ⟨rfl, inner?_follow c s (s.schedule.run now)⟩
  | stop => exact .inl ⟨rfl, inner?_follow c s s.schedule.stop⟩
  | interval => exact .inl ⟨rfl, inner?_follow c s s.schedule.expire⟩
  | resume turns =>
    cases turns with
    | zero => exact .inl ⟨rfl, inner?_follow c s (s.schedule.proceed now)⟩
    | succ turns => exact .inl ⟨rfl, rfl⟩
  | opening n =>
    have hinner := inner?_lift { s with schedule := s.schedule.note now n true } (R.begin n s.work)
    exact .inr ⟨R.begin n s.work, .inl ⟨n, rfl⟩, rfl, hinner⟩
  | closing n => exact .inl ⟨rfl, inner?_follow c s (s.schedule.note now n false).endCycle⟩
  | notice => exact .inl ⟨rfl, rfl⟩
  | farewell n => exact .inl ⟨rfl, rfl⟩
  | inner t =>
    have hy := heeded_foldl c (R.react now t r s.work).2 (lift s (R.react now t r s.work).1)
    exact .inr ⟨(R.react now t r s.work).1, .inr ⟨t, r, rfl⟩,
      hy.work, hy.inner.trans (inner?_lift s _)⟩

theorem filterMap_stops {β : Type} {f : Strand (Tag.Result ρ) → Option β}
    (hf : ∀ a : Activity Unit, f ⟨.stop, a⟩ = none) (stops : List (Nat × List Line)) :
    (stops.map fun x => stopStrand x.1 x.2).filterMap f = [] := by
  induction stops with
  | nil => rfl
  | cons x stops ih =>
    have hx : f (stopStrand x.1 x.2) = none := hf _
    rw [List.map_cons, List.filterMap_cons_none hx]
    exact ih

theorem inner?_opening (stops : List (Nat × List Line)) :
    (opening (ρ := ρ) stops).filterMap inner? = 0 := by
  rw [opening, Multiset.filterMap_cons_none _ _ rfl, Multiset.filterMap_coe,
    filterMap_stops fun _ => rfl]
  rfl

theorem sound_fresh (R : Routine ρ S) (w₀ : S) (frequency maxTime : Int)
    (stops : List (Nat × List Line)) :
    Sound R w₀ frequency [] (fresh frequency maxTime w₀) (opening (ρ := ρ) stops) := by
  have htags {β : Type} {f : Tag τ → Option β} (hf : f .stop = none) :
      (tags (opening (ρ := ρ) stops)).filterMap f = ((f .run).toList : List β) := by
    rw [opening, tags_cons, filterMap_cons, tags, Multiset.filterMap_map, Multiset.filterMap_coe,
      filterMap_stops fun _ => hf]
    exact add_zero _
  refine ⟨⟨⟨rfl, rfl, rfl, rfl, by simp [fresh]⟩, ?_, ?_⟩, ?_, ?_, ?_⟩
  · rw [controls, htags rfl]
    simp [awaited, fresh, Tag.control?]
  · simp [Suits, fresh]
  · rw [inner?_opening]
    exact .start
  · rw [openings, htags rfl]
    rfl
  · rw [closings, htags rfl]
    rfl

/-- Every run of a shift whose routine tells of each end once is sound. -/
theorem sound {c : Console} {maxTime : Int} {stops : List (Nat × List Line)} (hR : R.Honest w₀)
    (h : Runs (plan c R) (fresh frequency maxTime w₀) (opening stops) log s xs) :
    Sound R w₀ frequency log s xs := by
  induction h with
  | start => exact sound_fresh R w₀ frequency maxTime stops
  | @wait log s t a b xs _ hb ih =>
    obtain ⟨haccount, hroutine, hopened, hclosed⟩ := ih
    refine ⟨by simpa using haccount, ?_, by simpa using hopened, by simpa using hclosed⟩
    cases t with
    | inner t =>
      have hinner (a : Activity (ρ t)) :
          (⟨.inner t, a⟩ ::ₘ xs : Multiset (Strand (Tag.Result ρ))).filterMap inner? =
            ⟨t, a⟩ ::ₘ xs.filterMap inner? := Multiset.filterMap_cons_some _ _ _ rfl
      exact hinner b ▸ (hinner a ▸ hroutine).wait hb
    | _ =>
      rw [Multiset.filterMap_cons_none _ _ rfl] at hroutine ⊢
      exact hroutine
  | @turn now log s t r xs _ ih =>
    -- the routine is what bounds the ends by the beginnings; the counters alone could go below zero
    have hcard := ih.card_le hR
    have haccount := ih.account
    rw [tags_cons] at haccount hcard
    cases t with
    | run =>
      refine ih.follow c s (s.schedule.run now) rfl rfl (fun _ => rfl) ?_
      simpa [Tag.closing?] using haccount.run (by omega)
    | stop =>
      refine ih.follow c s s.schedule.stop rfl rfl (fun _ => rfl) ?_
      have hstop : Account frequency (begunIn log) (endedIn log) s (tags xs) :=
        haccount.exchange (by simp [Tag.control?]) (by simp)
      simpa [Tag.closing?] using hstop.stop
    | interval =>
      refine ih.follow c s s.schedule.expire rfl rfl (fun _ => rfl) ?_
      simpa [Tag.closing?] using haccount.expire
    | resume turns =>
      cases turns with
      | zero =>
        refine ih.follow c s (s.schedule.proceed now) rfl rfl (fun _ => rfl) ?_
        simpa [Tag.closing?] using haccount.proceed (by omega)
      | succ k =>
        refine ih.follow c s (s.schedule, [.resume k]) rfl rfl (fun _ => rfl) ?_
        have hnext : Account frequency (begunIn log) (endedIn log) s (.resume k ::ₘ tags xs) :=
          haccount.exchange (by simp [Tag.control?]) (by simp)
        simpa [Tag.closing?, Account.Obeyed, Tag.ofCommand, Tag.opening?] using hnext
    | opening n => exact ih.begin
    | closing n =>
      refine ih.follow c s (s.schedule.note now n false).endCycle rfl rfl (fun _ => rfl) ?_
      have hlt : (endedIn log).card < (begunIn log).card := by
        simp [Tag.closing?] at hcard
        omega
      simpa [Tag.closing?] using haccount.endCycle hlt
    | notice =>
      refine ih.follow c s (s.schedule, []) rfl rfl (fun _ => rfl) ?_
      have hnext : Account frequency (begunIn log) (endedIn log) s (tags xs) :=
        haccount.exchange (by simp [Tag.control?]) (by simp)
      simpa [Tag.closing?, Account.Obeyed] using hnext
    | farewell n =>
      refine ih.follow c { s with results := n :: s.results } (s.schedule, []) rfl rfl
        (fun _ => rfl) ?_
      simpa [Tag.closing?, Account.Obeyed] using haccount.farewell
    | inner t => exact ih.react

end Shift
end TestWorker
