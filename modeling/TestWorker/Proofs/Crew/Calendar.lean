import TestWorker.Proofs.Activity
import TestWorker.Proofs.Crew.Timing

namespace TestWorker

def Effect.isCalm : Effect → Prop
  | .print _ | .pause _ => True
  | _ => False

def Outside.Prompt {σ : Type} (o : Outside σ) : Prop :=
  ∀ lines now w, (o (.print lines) now w).delay = 0

namespace Activity
variable {σ α : Type}

/-- Printing and pausing are all that the activity does. -/
abbrev Calm (a : Activity α) : Prop := a.Asks Effect.isCalm

def pauses : Activity α → Nat
  | done _ => 0
  | ask (.pause d) next => d + (next ()).pauses
  | ask (.print _) next => (next ()).pauses
  | ask .clock _ | ask (.exchange _) _ | ask (.cookies _) _ | ask (.remember ..) _ | ask (.step _) _
  | ask (.query _) _ | ask (.draw _) _ => 0

/-- Nothing but pauses takes time. -/
theorem pauses_advance {o : Outside σ} (ho : o.Prompt) {a : Activity α} (h : a.Calm) (now : Instant)
    (w : σ) :
    match (a.advance o now w).1 with
    | .ended _ => a.pauses = 0
    | .waiting delay rest => a.pauses = delay + rest.pauses ∧ rest.Calm := by
  induction a generalizing w with
  | done r => rfl
  | ask e next ih =>
    cases e with
    | print lines =>
      have hdelay : (o.reply (.print lines) now w).delay = 0 := ho lines now w
      rw [advance]
      simp only [hdelay, if_true]
      exact ih () (h.2 ()) _
    | pause d =>
      rw [advance]
      by_cases hd : d = 0
      · simp only [Outside.reply, hd, if_true, pauses, Nat.zero_add]
        exact ih () (h.2 ()) _
      · simp only [Outside.reply, hd, if_false]
        exact ⟨rfl, h.2 ()⟩
    | _ => exact h.1.elim

@[simp] theorem pauses_print (lines : List Line) : (print lines).pauses = 0 := by
  cases lines <;> rfl

theorem calm_print (lines : List Line) : (print lines).Calm := by
  cases lines with
  | nil => trivial
  | cons line lines => exact ⟨trivial, fun _ => trivial⟩

end Activity

namespace Crew
variable {τ S σ : Type} {ρ : τ → Type}

/-- When the strands that there are will end. -/
def calendar (c : Crew ρ S σ) : Multiset (Instant × τ) :=
  c.dated.map fun x => (x.1 + x.2.rest.pauses, x.2.tag)

def ends (now : Instant) (xs : Multiset (Strand ρ)) : Multiset (Instant × τ) :=
  xs.map fun x => (now + x.rest.pauses, x.tag)

def Calm (c : Crew ρ S σ) : Prop := ∀ x ∈ c.dated, x.2.rest.Calm

theorem map_snd_calendar (c : Crew ρ S σ) : c.calendar.map Prod.snd = tags c.strands := by
  rw [← map_snd_dated, calendar, tags, Multiset.map_map, Multiset.map_map]
  rfl

theorem now_le_of_mem_dated {c : Crew ρ S σ} (h : c.Timely) {x : Instant × Strand ρ}
    (hx : x ∈ c.dated) : c.now ≤ x.1 := by
  rcases Multiset.mem_add.1 hx with hx | hx
  · obtain ⟨y, -, rfl⟩ := List.mem_map.1 (Multiset.mem_coe.1 hx)
    exact Nat.le_refl _
  · obtain ⟨a, ha, rfl⟩ := List.mem_map.1 (Multiset.mem_coe.1 hx)
    exact Nat.le_of_lt (h.later a ha)

theorem now_le_of_mem_calendar {c : Crew ρ S σ} (h : c.Timely)
    {x : Instant × τ} (hx : x ∈ c.calendar) : c.now ≤ x.1 := by
  obtain ⟨y, hy, rfl⟩ := Multiset.mem_map.1 hx
  exact Nat.le_trans (now_le_of_mem_dated h hy) (Nat.le_add_right _ _)

/-- What one move is to the calendar: time passes, to no time after an end that is to come, or the
strand whose end has come ends. -/
inductive Passes (p : Plan ρ S) (c d : Crew ρ S σ) : Prop
  | time (le : c.now ≤ d.now) (before : ∀ x ∈ c.calendar, d.now ≤ x.1) (state : d.state = c.state)
    (calendar : d.calendar = c.calendar)
  | ending {t : τ} {r : ρ t} {ts : Multiset (Instant × τ)} (before : c.calendar = (c.now, t) ::ₘ ts)
    (now : d.now = c.now) (state : d.state = (p c.now t r c.state).state)
    (calendar : d.calendar = ends c.now (p c.now t r c.state).strands + ts)

theorem Calm.passes {p : Plan ρ S} {o : Outside σ} {c d : Crew ρ S σ}
    (ho : o.Prompt) (hp : ∀ now t (r : ρ t) s, ∀ x ∈ (p now t r s).strands, x.rest.Calm)
    (ht : c.Timely) (hc : c.Calm) (h : c.turn p o = some d) : d.Timely ∧ d.Calm ∧ Passes p c d := by
  obtain ⟨htimely, hmoves⟩ := ht.moves h
  refine ⟨htimely, ?_⟩
  cases hmoves with
  | clock hready halarms heq hdated =>
    obtain ⟨hlt, -, hle⟩ := ht.now_wake hready halarms
    have hcalendar : d.calendar = c.calendar := by rw [calendar, hdated, calendar]
    refine ⟨fun x hx => hc x (hdated ▸ hx), .time ?_ (fun x hx => ?_) ?_ hcalendar⟩
    · rw [heq]
      exact Nat.le_of_lt hlt
    · rw [← hcalendar] at hx
      exact now_le_of_mem_calendar htimely hx
    · rw [heq, state_wake]
  | @wait x delay rest w ys hadvance hbefore hafter hnow hstate =>
    rw [Crew.Calm, hbefore] at hc
    obtain ⟨hx, hys⟩ := Multiset.forall_mem_cons.1 hc
    have hpauses := Activity.pauses_advance ho hx c.now c.surroundings
    rw [hadvance] at hpauses
    obtain ⟨hpauses, hrest⟩ := hpauses
    have hcalendar : d.calendar = c.calendar := by
      rw [calendar, hafter, calendar, hbefore, Multiset.map_cons, Multiset.map_cons]
      simp only [hpauses, Nat.add_assoc]
    refine ⟨?_, .time (Nat.le_of_eq hnow.symm) (fun x hx => ?_) hstate hcalendar⟩
    · rw [Crew.Calm, hafter]
      exact Multiset.forall_mem_cons.2 ⟨hrest, hys⟩
    · rw [hnow]
      exact now_le_of_mem_calendar ht hx
  | @ending x r w ys hadvance hbefore hafter hnow hstate =>
    rw [Crew.Calm, hbefore] at hc
    obtain ⟨hx, hys⟩ := Multiset.forall_mem_cons.1 hc
    have hpauses := Activity.pauses_advance ho hx c.now c.surroundings
    rw [hadvance] at hpauses
    have hnow' : c.calendar =
        (c.now, x.tag) ::ₘ ys.map fun y => (y.1 + y.2.rest.pauses, y.2.tag) := by
      rw [calendar, hbefore, Multiset.map_cons, show x.rest.pauses = 0 from hpauses]
      rfl
    refine ⟨?_, .ending (r := r) hnow' hnow hstate ?_⟩
    · rw [Crew.Calm, hafter]
      intro y hy
      rcases Multiset.mem_add.1 hy with hy | hy
      · obtain ⟨z, hz, rfl⟩ := Multiset.mem_map.1 hy
        exact hp _ _ _ _ z hz
      · exact hys y hy
    · rw [calendar, hafter, Multiset.map_add, Multiset.map_map]
      rfl

end Crew
end TestWorker
