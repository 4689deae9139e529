import Mathlib.Logic.Relation
import TestWorker.Proofs.Crew.Twins

namespace TestWorker

namespace Activity
variable {α σ : Type} {o : Outside σ} {a rest : Activity α} {now : Instant}
  {s w : σ} {r : α} {delay : Nat}

theorem run_of_ended (h : a.advance o now s = (.ended r, w)) : a.run o now s = (r, now, w) := by
  induction a generalizing s with
  | done x =>
    cases h
    rfl
  | ask e next ih =>
    rw [advance] at h
    split at h
    · next hdelay =>
      rw [run, hdelay]
      exact ih _ h
    · cases h

theorem run_of_waiting (h : a.advance o now s = (.waiting delay rest, w)) :
    a.run o now s = rest.run o (now + delay) w := by
  induction a generalizing s with
  | done x => cases h
  | ask e next ih =>
    rw [advance] at h
    split at h
    · next hdelay =>
      rw [run, hdelay]
      exact ih _ h
    · cases h
      rfl

end Activity

/-- Printing takes no time, and what is replied later does not depend on it. The relation is between
what the surroundings know without what has been printed. -/
structure Outside.Deaf {σ : Type} (V : σ → σ → Prop) (o : Outside σ) : Prop where
  same {s t : σ} (e : Effect) (now : Instant) : V s t → (o e now s).Twins V (o e now t)
  prompt (lines : List Line) (now : Instant) (s : σ) : (o (.print lines) now s).delay = 0
  unheard {s t : σ} (lines : List Line) (now : Instant) : V s t → V (o (.print lines) now s).state t

section
variable {α σ : Type} {V : σ → σ → Prop} {o : Outside σ}

/-- The same is asked for, whatever has been printed before. -/
theorem Outside.Deaf.advance (ho : o.Deaf V) (a : Activity α)
    (now : Instant) {s t : σ × List (Instant × Effect)} (h : V s.1 t.1) :
    (a.advance o.recording now s).1 = (a.advance o.recording now t).1 ∧
      V (a.advance o.recording now s).2.1 (a.advance o.recording now t).2.1 ∧
      ∃ ms, (a.advance o.recording now s).2.2 = s.2 ++ ms ∧
        (a.advance o.recording now t).2.2 = t.2 ++ ms := by
  induction a generalizing s t with
  | done x => exact ⟨rfl, h, [], (List.append_nil _).symm, (List.append_nil _).symm⟩
  | ask e next ih =>
    have hreply : (o.recording.reply e now s).value = (o.recording.reply e now t).value ∧
        (o.recording.reply e now s).delay = (o.recording.reply e now t).delay ∧
        V (o.recording.reply e now s).state.1 (o.recording.reply e now t).state.1 ∧
        ∃ ms, (o.recording.reply e now s).state.2 = s.2 ++ ms ∧
          (o.recording.reply e now t).state.2 = t.2 ++ ms := by
      -- asking for the time and pausing are not recorded, all else is
      cases e with
      | clock => exact ⟨rfl, rfl, h, [], (List.append_nil _).symm, (List.append_nil _).symm⟩
      | pause d => exact ⟨rfl, rfl, h, [], (List.append_nil _).symm, (List.append_nil _).symm⟩
      | _ =>
        obtain ⟨hvalue, hdelay, hstate⟩ := ho.same _ now h
        exact ⟨hvalue, hdelay, hstate, _, rfl, rfl⟩
    obtain ⟨hvalue, hdelay, hstate, ms, hs, ht⟩ := hreply
    rw [Activity.advance, Activity.advance, hvalue, hdelay]
    split
    · obtain ⟨hstage, hleft, ms', hs', ht'⟩ := ih (o.recording.reply e now t).value hstate
      refine ⟨hstage, hleft, ms ++ ms', ?_, ?_⟩
      · rw [hs', hs, List.append_assoc]
      · rw [ht', ht, List.append_assoc]
    · exact ⟨rfl, hstate, ms, hs, ht⟩

end

namespace Crew
variable {τ S σ : Type} {ρ : τ → Type} {p : Plan ρ S} {o : Outside σ}
  {enough : S → Bool} {c d : Crew ρ S σ}

/-- One turn of a crew whose state is not enough yet. -/
def Step (p : Plan ρ S) (o : Outside σ) (enough : S → Bool) (c d : Crew ρ S σ) : Prop :=
  enough c.state = false ∧ c.turn p o = some d

abbrev Steps (p : Plan ρ S) (o : Outside σ) (enough : S → Bool) : Crew ρ S σ → Crew ρ S σ → Prop :=
  Relation.ReflTransGen (Step p o enough)

theorem strands_eq_zero : c.strands = 0 ↔ c.ready = [] ∧ c.alarms = [] := by
  rw [strands, add_eq_zero, Multiset.coe_eq_zero, Multiset.coe_eq_zero, List.map_eq_nil_iff]

theorem wake_of_cons {a : Alarm ρ} {as : List (Alarm ρ)} (h : c.alarms = a :: as) : c.wake =
    { c with
      now := a.due
      ready := (c.alarms.takeWhile (·.due ≤ a.due)).map (·.strand)
      alarms := c.alarms.dropWhile (·.due ≤ a.due) } := by
  rw [wake, h]

theorem turn_of_idle (hready : c.ready = []) (halarms : c.alarms ≠ []) :
    c.turn p o = some c.wake := by
  simp [turn, hready, halarms]

theorem turn_of_ended {x : Strand ρ} {ready : List (Strand ρ)}
    {r : ρ x.tag} {w : σ} {y : Reaction ρ S} (hready : c.ready = x :: ready)
    (h : x.rest.advance o c.now c.surroundings = (.ended r, w)) (hy : p c.now x.tag r c.state = y) :
    c.turn p o =
      some { c with
        ready := y.first ++ ready ++ y.later
        state := y.state
        surroundings := w } := by
  simp only [turn, hready, h, hy]

theorem turn_of_done {t : τ} {r : ρ t} {ready : List (Strand ρ)} {y : Reaction ρ S}
    (hready : c.ready = ⟨t, .done r⟩ :: ready) (hy : p c.now t r c.state = y) :
    c.turn p o = some { c with ready := y.first ++ ready ++ y.later, state := y.state } :=
  turn_of_ended hready rfl hy

theorem turn_of_waiting {x : Strand ρ} {ready : List (Strand ρ)}
    {delay : Nat} {rest : Activity (ρ x.tag)} {w : σ} (hready : c.ready = x :: ready)
    (h : x.rest.advance o c.now c.surroundings = (.waiting delay rest, w)) :
    c.turn p o = some { c with
      ready := ready
      alarms := schedule ⟨c.now + delay, ⟨x.tag, rest⟩⟩ c.alarms
      surroundings := w } := by
  simp only [turn, hready, h]

theorem steps_runUntil (fuel : Nat) (c : Crew ρ S σ) :
    Steps p o enough c (runUntil p o enough fuel c) := by
  induction fuel generalizing c with
  | zero => exact .refl
  | succ fuel ih =>
    rw [runUntil]
    split
    · exact .refl
    · next henough =>
      split
      · next d hturn =>
          exact (Relation.ReflTransGen.single ⟨by simpa using henough, hturn⟩).trans (ih d)
      · exact .refl

/-- A crew that can come to an end does so, however many turns it is given beyond these. -/
theorem runUntil_of_steps (h : Steps p o enough c d)
    (hd : enough d.state = true ∨ d.turn p o = none) :
    ∃ n, ∀ fuel, n ≤ fuel → runUntil p o enough fuel c = d := by
  -- from the front, where the fuel is spent
  induction h using Relation.ReflTransGen.head_induction_on with
  | refl =>
    refine ⟨0, fun fuel _ => ?_⟩
    cases fuel with
    | zero => rfl
    | succ fuel =>
      rw [runUntil]
      rcases hd with henough | hturn
      · rw [if_pos henough]
      · rw [hturn, ite_self]
  | head hstep _ ih =>
    obtain ⟨n, hn⟩ := ih
    refine ⟨n + 1, fun fuel hfuel => ?_⟩
    obtain ⟨m, rfl⟩ : ∃ m, fuel = m + 1 := ⟨fuel - 1, by omega⟩
    rw [runUntil, hstep.1, hstep.2]
    exact hn m (by omega)

/-- A strand that is alone goes to its end as in a run. -/
theorem steps_alone {now later : Instant} {s : S} {w left : σ}
    {t : τ} {a : Activity (ρ t)} {r : ρ t} {x : Reaction ρ S}
    (henough : enough s = false) (h : a.run o now w = (r, later, left)) (hx : p later t r s = x) :
    Steps p o enough ⟨now, [⟨t, a⟩], [], s, w⟩ ⟨later, x.first ++ x.later, [], x.state, left⟩ := by
  induction a using Activity.later_wellFounded.induction generalizing now w with
  | _ a ih =>
    cases hadvance : a.advance o now w with
    | mk stage after =>
      cases stage with
      | ended r' =>
        rw [Activity.run_of_ended hadvance] at h
        cases h
        refine .single ⟨henough, ?_⟩
        simp [turn, hadvance, hx]
      | waiting delay rest =>
        rw [Activity.run_of_waiting hadvance] at h
        -- a wait is two turns: the strand goes to sleep, and the clock goes on to its alarm
        have hwait : Step p o enough ⟨now, [⟨t, a⟩], [], s, w⟩
            ⟨now, [], [⟨now + delay, ⟨t, rest⟩⟩], s, after⟩ := by
          refine ⟨henough, ?_⟩
          simp [turn, hadvance, schedule]
        have hwake : Step p o enough ⟨now, [], [⟨now + delay, ⟨t, rest⟩⟩], s, after⟩
            ⟨now + delay, [⟨t, rest⟩], [], s, after⟩ := by
          refine ⟨henough, ?_⟩
          simp [turn, wake]
        exact .head hwait (.head hwake (ih rest (Activity.later_of_waiting hadvance) h))

end Crew
end TestWorker
