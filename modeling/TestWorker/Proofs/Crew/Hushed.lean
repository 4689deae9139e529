import TestWorker.Proofs.Crew.Steps

namespace TestWorker
variable {hears : List Line → Bool}

/-- The reply to a print that is not to be heard. -/
def Effect.hushed (hears : List Line → Bool) : (e : Effect) → Option e.Reply
  | .print lines => if hears lines then none else some ()
  | _ => none

theorem Effect.hushed_of_not_print {e : Effect} (h : ∀ lines, e ≠ .print lines) :
    e.hushed hears = none := by
  cases e with
  | print lines => exact absurd rfl (h lines)
  | _ => rfl

namespace Activity
variable {α β : Type} {a : Activity α}

/-- The activity without the prints that are not to be heard. -/
def hushed (hears : List Line → Bool) : Activity α → Activity α
  | done a => done a
  | ask e next => match e.hushed hears with
    | some r => (next r).hushed hears
    | none => ask e fun r => (next r).hushed hears

theorem hushed_bind (a : Activity α) (f : α → Activity β) :
    (a >>= f).hushed hears = a.hushed hears >>= fun x => (f x).hushed hears := by
  induction a with
  | done a => rfl
  | ask e next ih =>
    change (ask e fun r => next r >>= f).hushed hears = _
    rw [hushed, hushed]
    split
    · exact ih _
    · exact congrArg (ask e) (funext ih)

theorem hushed_of_asks (h : a.Asks fun e => ∀ lines, e ≠ .print lines) : a.hushed hears = a := by
  induction a with
  | done a => rfl
  | ask e next ih =>
    rw [hushed, Effect.hushed_of_not_print h.1]
    exact congrArg (ask e) (funext fun r => ih r (h.2 r))

theorem hushed_print (lines : List Line) :
    (print lines).hushed hears = print (if hears lines then lines else []) := by
  cases lines with
  | nil => cases hears [] <;> rfl
  | cons line lines =>
    change (ask (.print (line :: lines)) done).hushed hears = _
    rw [hushed, Effect.hushed]
    cases hears (line :: lines) <;> rfl

end Activity

def Stage.hushed {α : Type} (hears : List Line → Bool) : Stage α → Stage α
  | .ended a => .ended a
  | .waiting d a => .waiting d (a.hushed hears)

def hushedLog (hears : List Line → Bool) (log : List (Instant × Effect)) :
    List (Instant × Effect) :=
  log.filter fun x => (x.2.hushed hears).isNone

/-- Two records of which the second holds what is heard of the first. -/
structure Overhears {σ : Type} (hears : List Line → Bool) (V : σ → σ → Prop)
    (s t : σ × List (Instant × Effect)) : Prop where
  world : V s.1 t.1
  log : t.2 = hushedLog hears s.2

section
variable {α σ : Type} {V : σ → σ → Prop} {o : Outside σ}
  {s t : σ × List (Instant × Effect)} {e : Effect}

theorem Overhears.ask (h : Overhears hears V s t) (ho : o.Deaf V)
    (he : e.hushed hears = none) (now : Instant) :
    (o.recording.reply e now t).value = (o.recording.reply e now s).value ∧
      (o.recording.reply e now t).delay = (o.recording.reply e now s).delay ∧
      Overhears hears V (o.recording.reply e now s).state (o.recording.reply e now t).state := by
  have hlog : t.2 ++ [(now, e)] = hushedLog hears (s.2 ++ [(now, e)]) := by
    rw [h.log, hushedLog, hushedLog, List.filter_append]
    simp [he]
  cases e with
  | clock => exact ⟨rfl, rfl, h⟩
  | pause d => exact ⟨rfl, rfl, h⟩
  | _ =>
    obtain ⟨hvalue, hdelay, hstate⟩ := ho.same _ now h.world
    exact ⟨hvalue.symm, hdelay.symm, hstate, hlog⟩

theorem Overhears.skip (h : Overhears hears V s t) (ho : o.Deaf V)
    {r : e.Reply} (he : e.hushed hears = some r) (now : Instant) :
    (o.recording.reply e now s).value = r ∧ (o.recording.reply e now s).delay = 0 ∧
      Overhears hears V (o.recording.reply e now s).state t := by
  cases e with
  | print lines =>
    refine ⟨rfl, ho.prompt lines now s.1, ho.unheard lines now h.world, ?_⟩
    change t.2 = hushedLog hears (s.2 ++ [(now, .print lines)])
    rw [h.log, hushedLog, hushedLog, List.filter_append]
    simp [he]
  | _ => cases he

theorem Overhears.advance (ho : o.Deaf V) (a : Activity α) (now : Instant)
    (h : Overhears hears V s t) :
    ((a.hushed hears).advance o.recording now t).1 = (a.advance o.recording now s).1.hushed hears ∧
      Overhears hears V (a.advance o.recording now s).2
        ((a.hushed hears).advance o.recording now t).2 := by
  induction a generalizing s t with
  | done x => exact ⟨rfl, h⟩
  | ask e next ih =>
    rw [Activity.hushed]
    cases he : e.hushed hears with
    | some r =>
      obtain ⟨hvalue, hdelay, hstate⟩ := h.skip ho he now
      rw [Activity.advance, if_pos hdelay, hvalue]
      exact ih r hstate
    | none =>
      obtain ⟨hvalue, hdelay, hstate⟩ := h.ask ho he now
      rw [Activity.advance, Activity.advance, hvalue, hdelay]
      split
      · exact ih _ hstate
      · exact ⟨rfl, hstate⟩

end

section
variable {τ S σ : Type} {ρ : τ → Type} {V : σ → σ → Prop} {o : Outside σ}

def Strand.hushed (hears : List Line → Bool) (x : Strand ρ) : Strand ρ :=
  ⟨x.tag, x.rest.hushed hears⟩

def Alarm.hushed (hears : List Line → Bool) (a : Alarm ρ) : Alarm ρ :=
  ⟨a.due, a.strand.hushed hears⟩

/-- The reaction with what is heard of its strands; `f` is what is left of the state. -/
def Reaction.hushed (hears : List Line → Bool) (f : S → S) (x : Reaction ρ S) : Reaction ρ S where
  state := f x.state
  first := x.first.map (Strand.hushed hears)
  later := x.later.map (Strand.hushed hears)

def Plan.Hushed (hears : List Line → Bool) (f : S → S) (p q : Plan ρ S) : Prop :=
  ∀ now t (r : ρ t) s, q now t r (f s) = (p now t r s).hushed hears f

namespace Crew
variable {f : S → S} {c d : Crew ρ S (σ × List (Instant × Effect))} {p q : Plan ρ S}

/-- The second crew is what is heard of the first. -/
inductive Hushed (hears : List Line → Bool) (f : S → S) (V : σ → σ → Prop) :
    Crew ρ S (σ × List (Instant × Effect)) → Crew ρ S (σ × List (Instant × Effect)) → Prop
  | mk {now : Instant} {ready : List (Strand ρ)} {alarms : List (Alarm ρ)} {s : S}
    {w w' : σ × List (Instant × Effect)} : Overhears hears V w w' →
    Hushed hears f V ⟨now, ready, alarms, s, w⟩
      ⟨now, ready.map (Strand.hushed hears), alarms.map (Alarm.hushed hears), f s, w'⟩

theorem Hushed.now (h : Hushed hears f V c d) : d.now = c.now := by
  obtain ⟨-⟩ := h
  rfl

theorem Hushed.state (h : Hushed hears f V c d) : d.state = f c.state := by
  obtain ⟨-⟩ := h
  rfl

theorem Hushed.surroundings (h : Hushed hears f V c d) :
    Overhears hears V c.surroundings d.surroundings := by
  obtain ⟨h⟩ := h
  exact h

theorem schedule_hushed (hears : List Line → Bool) (a : Alarm ρ) (as : List (Alarm ρ)) :
    schedule (a.hushed hears) (as.map (Alarm.hushed hears)) =
      (schedule a as).map (Alarm.hushed hears) := by
  induction as with
  | nil => rfl
  | cons b bs ih =>
    rw [List.map_cons, schedule, schedule, ih]
    change (if a.due < b.due then _ else _) = _
    split <;> rfl

theorem Hushed.wake (h : Hushed hears f V c d) : Hushed hears f V c.wake d.wake := by
  obtain @⟨now, ready, alarms, s, w, w', hw⟩ := h
  cases alarms with
  | nil => exact ⟨hw⟩
  | cons a as =>
    have hdue : (((a :: as).map (Alarm.hushed hears)).takeWhile (·.due ≤ a.due)).map (·.strand) =
        (((a :: as).takeWhile (·.due ≤ a.due)).map (·.strand)).map (Strand.hushed hears) := by
      rw [List.takeWhile_map, List.map_map, List.map_map]
      rfl
    have hlater : ((a :: as).map (Alarm.hushed hears)).dropWhile (·.due ≤ a.due) =
        ((a :: as).dropWhile (·.due ≤ a.due)).map (Alarm.hushed hears) := by
      rw [List.dropWhile_map]
      rfl
    change Hushed hears f V _
      ⟨a.due, (((a :: as).map (Alarm.hushed hears)).takeWhile (·.due ≤ a.due)).map (·.strand),
      ((a :: as).map (Alarm.hushed hears)).dropWhile (·.due ≤ a.due), f s, w'⟩
    rw [hdue, hlater]
    exact ⟨hw⟩

/-- The next turn of both crews, or the end of both. -/
theorem Hushed.turn (h : Hushed hears f V c d) (hpq : Plan.Hushed hears f p q) (ho : o.Deaf V) :
    Option.Rel (Hushed hears f V) (c.turn p o.recording) (d.turn q o.recording) := by
  have hwake := h.wake
  obtain @⟨now, ready, alarms, s, w, w', hw⟩ := h
  cases ready with
  | nil =>
    cases alarms with
    | nil => exact .none
    | cons a as => exact .some hwake
  | cons x ready =>
    obtain ⟨hstage, hleft⟩ := hw.advance ho x.rest now
    unfold Crew.turn
    simp only [List.map_cons, Strand.hushed]
    generalize x.rest.advance o.recording now w = y at hstage hleft
    generalize (x.rest.hushed hears).advance o.recording now w' = z at hstage hleft
    obtain ⟨stage, w⟩ := y
    obtain ⟨_, w'⟩ := z
    obtain rfl := hstage
    cases stage with
    | ended r =>
      simp only [Stage.hushed, hpq now x.tag r s, Reaction.hushed, ← List.map_append]
      exact .some ⟨hleft⟩
    | waiting delay rest =>
      simp only [Stage.hushed]
      have hschedule := schedule_hushed hears ⟨now + delay, x.tag, rest⟩ alarms
      simp only [Alarm.hushed, Strand.hushed] at hschedule
      rw [hschedule]
      exact .some ⟨hleft⟩

/-- A crew that is heard stays so. -/
theorem Hushed.runUntil (h : Hushed hears f V c d) (hpq : Plan.Hushed hears f p q)
    (ho : o.Deaf V) {enough : S → Bool} (henough : ∀ s, enough (f s) = enough s) (fuel : Nat) :
    Hushed hears f V (runUntil p o.recording enough fuel c)
      (runUntil q o.recording enough fuel d) := by
  induction fuel generalizing c d with
  | zero => exact h
  | succ fuel ih =>
    rw [Crew.runUntil, Crew.runUntil, h.state, henough]
    split
    · exact h
    · have hturn := h.turn hpq ho
      revert hturn
      generalize c.turn p o.recording = x
      generalize d.turn q o.recording = y
      rintro (hcd | -)
      · exact ih hcd
      · exact h

end Crew
end
end TestWorker
