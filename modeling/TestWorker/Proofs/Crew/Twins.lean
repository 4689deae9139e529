import TestWorker.Proofs.Activity.Alike

namespace TestWorker

/-- The same effects, or exchanges of requests that stand for each other. -/
inductive Effect.Twins (C : Web.Request → Web.Request → Prop) : Effect → Effect → Prop
  | same (e : Effect) : Twins C e e
  | exchange {q r : Web.Request} : C q r → Twins C (.exchange q) (.exchange r)

namespace Activity
variable {α β γ δ : Type} {C : Web.Request → Web.Request → Prop} {R : α → β → Prop} {a : Activity α}
  {b : Activity β}

/-- Activities that ask for the same as long as they are replied the same, but for requests that
stand for each other, and that come to results in the relation. -/
inductive Twins (C : Web.Request → Web.Request → Prop) (R : α → β → Prop) :
    Activity α → Activity β → Prop
  | done {x : α} {y : β} : R x y → Twins C R (.done x) (.done y)
  | same {e : Effect} {f : e.Reply → Activity α} {g : e.Reply → Activity β} :
    (∀ r, Twins C R (f r) (g r)) → Twins C R (.ask e f) (.ask e g)
  | exchange {q r : Web.Request} {f : (Effect.exchange q).Reply → Activity α}
    {g : (Effect.exchange r).Reply → Activity β} : C q r →
    (∀ answer : Except Fault Web.Response, Twins C R (f answer) (g answer)) →
    Twins C R (.ask (.exchange q) f) (.ask (.exchange r) g)

theorem twins_refl (C : Web.Request → Web.Request → Prop) (a : Activity α) : Twins C Eq a a := by
  induction a with
  | done x => exact .done rfl
  | ask e next ih => exact .same ih

theorem Twins.mono {S : α → β → Prop} (h : Twins C R a b) (hRS : ∀ x y, R x y → S x y) :
    Twins C S a b := by
  induction h with
  | done hxy => exact .done (hRS _ _ hxy)
  | same _ ih => exact .same ih
  | exchange hqr _ ih => exact .exchange hqr ih

theorem Twins.bind {S : γ → δ → Prop} {f : α → Activity γ} {g : β → Activity δ} (h : Twins C R a b)
    (hfg : ∀ x y, R x y → Twins C S (f x) (g y)) : Twins C S (a >>= f) (b >>= g) := by
  induction h with
  | done hxy => exact hfg _ _ hxy
  | same _ ih => exact .same ih
  | exchange hqr _ ih => exact .exchange hqr ih

theorem Twins.bind_eq {S : γ → δ → Prop} {a b : Activity α} {f : α → Activity γ}
    {g : α → Activity δ} (h : Twins C Eq a b) (hfg : ∀ x, Twins C S (f x) (g x)) :
    Twins C S (a >>= f) (b >>= g) :=
  h.bind fun x _ hxy => hxy ▸ hfg x

end Activity

namespace Attempt
variable {α β γ δ : Type} {C : Web.Request → Web.Request → Prop} {R : α → β → Prop}

/-- Attempts that ask for the same, but for requests that stand for each other. -/
def Twins (C : Web.Request → Web.Request → Prop) (R : α → β → Prop)
    (t : Attempt α) (u : Attempt β) : Prop :=
  Activity.Twins C (ExceptAlike R) t.outcome u.outcome

theorem twins_refl (C : Web.Request → Web.Request → Prop) (t : Attempt α) : Twins C Eq t t := by
  refine (Activity.twins_refl C t.outcome).mono ?_
  rintro x _ rfl
  exact exceptAlike_refl x

theorem Twins.outcome {t u : Attempt α} (h : Twins C Eq t u) :
    Activity.Twins C Eq t.outcome u.outcome :=
  h.mono fun _ _ => eq_of_exceptAlike

theorem twins_ofExcept {x : Except Fault α} {y : Except Fault β} (h : ExceptAlike R x y) :
    Twins C R (ofExcept x) (ofExcept y) := by
  rw [Twins, outcome_ofExcept, outcome_ofExcept]
  exact .done h

theorem Twins.bind {S : γ → δ → Prop} {t : Attempt α} {u : Attempt β} {f : α → Attempt γ}
    {g : β → Attempt δ} (h : Twins C R t u) (hfg : ∀ x y, R x y → Twins C S (f x) (g y)) :
    Twins C S (t >>= f) (u >>= g) := by
  rw [Twins, outcome_bind, outcome_bind]
  refine Activity.Twins.bind h fun x y hxy => ?_
  cases x <;> cases y
  · obtain rfl : _ = _ := hxy
    exact .done rfl
  · exact hxy.elim
  · exact hxy.elim
  · exact hfg _ _ hxy

theorem Twins.bind_eq {S : γ → δ → Prop} {t u : Attempt α} {f : α → Attempt γ} {g : α → Attempt δ}
    (h : Twins C Eq t u) (hfg : ∀ x, Twins C S (f x) (g x)) : Twins C S (t >>= f) (u >>= g) :=
  h.bind fun x _ hxy => hxy ▸ hfg x

theorem Twins.lift {a : Activity α} {b : Activity β} (h : Activity.Twins C R a b) :
    Twins C R (liftM a) (liftM b) := by
  rw [Twins, outcome_liftM, outcome_liftM]
  exact h.bind fun _ _ hxy => .done hxy

end Attempt

/-- The same is replied after the same time, and what is left is in the relation. -/
structure Reply.Twins {σ : Type} (V : σ → σ → Prop) {e : Effect} (x y : Reply σ e) : Prop where
  value : x.value = y.value
  delay : x.delay = y.delay
  state : V x.state y.state

/-- Surroundings that cannot tell requests apart that stand for each other. The relation is between
what they may have come to know. -/
structure Outside.Blind {σ : Type} (C : Web.Request → Web.Request → Prop)
    (V : σ → σ → Prop) (o : Outside σ) : Prop where
  same {s t : σ} (e : Effect) (now : Instant) : V s t → (o e now s).Twins V (o e now t)
  exchange {s t : σ} {q r : Web.Request} (now : Instant) : C q r → V s t →
    Reply.Twins V (e := .exchange q) (o (.exchange q) now s)
      ⟨(o (.exchange r) now t).value, (o (.exchange r) now t).delay, (o (.exchange r) now t).state⟩

/-- Surroundings that keep what they are asked for, and when. -/
def Outside.recording {σ : Type} (o : Outside σ) : Outside (σ × List (Instant × Effect)) :=
  fun e now s =>
  let r := o e now s.1
  ⟨r.value, r.delay, r.state, s.2 ++ [(now, e)]⟩

def sentIn (log : List (Instant × Effect)) : List (Instant × Web.Request) :=
  log.filterMap fun x => match x.2 with
    | .exchange r => some (x.1, r)
    | _ => none

abbrev Noted (C : Web.Request → Web.Request → Prop) (x y : Instant × Effect) : Prop :=
  x.1 = y.1 ∧ x.2.Twins C y.2

section
variable {σ : Type} {C : Web.Request → Web.Request → Prop} {V : σ → σ → Prop} {o : Outside σ}

theorem Outside.Blind.mono {D : Web.Request → Web.Request → Prop} (ho : o.Blind C V)
    (hDC : ∀ q r, D q r → C q r) : o.Blind D V where
  same := ho.same
  exchange now hqr := ho.exchange now (hDC _ _ hqr)

theorem Outside.Blind.reply (ho : o.Blind C V) (e : Effect) (now : Instant) {s t : σ} (h : V s t) :
    (o.reply e now s).Twins V (o.reply e now t) := by
  cases e with
  | clock => exact ⟨rfl, rfl, h⟩
  | pause d => exact ⟨rfl, rfl, h⟩
  | _ => exact ho.same _ now h

theorem Outside.Blind.reply_exchange (ho : o.Blind C V) {q r : Web.Request}
    (hqr : C q r) (now : Instant) {s t : σ} (h : V s t) :
    Reply.Twins V (e := .exchange q) (o.reply (.exchange q) now s)
      ⟨(o.reply (.exchange r) now t).value, (o.reply (.exchange r) now t).delay,
        (o.reply (.exchange r) now t).state⟩ :=
  ho.exchange now hqr h

theorem Outside.Blind.recording (ho : o.Blind C V) :
    o.recording.Blind C fun x y => V x.1 y.1 ∧ List.Forall₂ (Noted C) x.2 y.2 where
  same e now h := by
    obtain ⟨hvalue, hdelay, hstate⟩ := ho.same e now h.1
    exact ⟨hvalue, hdelay, hstate, List.rel_append h.2 (.cons ⟨rfl, .same e⟩ .nil)⟩
  exchange now hqr h := by
    obtain ⟨hvalue, hdelay, hstate⟩ := ho.exchange now hqr h.1
    exact ⟨hvalue, hdelay, hstate, List.rel_append h.2 (.cons ⟨rfl, .exchange hqr⟩ .nil)⟩

/-- As far as activities have come without waiting. -/
inductive Stage.Twins {α β : Type} (C : Web.Request → Web.Request → Prop) (R : α → β → Prop) :
    Stage α → Stage β → Prop
  | ended {x : α} {y : β} : R x y → Twins C R (.ended x) (.ended y)
  | waiting {a : Activity α} {b : Activity β} (delay : Nat) : a.Twins C R b →
    Twins C R (.waiting delay a) (.waiting delay b)

theorem Activity.Twins.advance {α β : Type} {R : α → β → Prop} {a : Activity α} {b : Activity β}
    (h : a.Twins C R b) (ho : o.Blind C V) (now : Instant) {s t : σ} (hst : V s t) :
    (a.advance o now s).1.Twins C R (b.advance o now t).1 ∧
      V (a.advance o now s).2 (b.advance o now t).2 := by
  induction h generalizing s t with
  | done hxy => exact ⟨.ended hxy, hst⟩
  | @same e f g hfg ih =>
    obtain ⟨hvalue, hdelay, hstate⟩ := ho.reply e now hst
    rw [Activity.advance, Activity.advance, hvalue, hdelay]
    split
    · exact ih _ hstate
    · exact ⟨.waiting _ (hfg _), hstate⟩
  | @exchange q r f g hqr hfg ih =>
    obtain ⟨hvalue, hdelay, hstate⟩ := ho.reply_exchange hqr now hst
    dsimp only at hvalue hdelay hstate
    rw [Activity.advance, Activity.advance, hvalue, hdelay]
    split
    · exact ih _ hstate
    · exact ⟨.waiting _ (hfg _), hstate⟩

end

section
variable {τ S σ : Type} {ρ : τ → Type} {C : Web.Request → Web.Request → Prop} {R : S → S → Prop}
  {V : σ → σ → Prop}

/-- Strands under one tag that ask for the same and come to the same. -/
inductive Strand.Twins (C : Web.Request → Web.Request → Prop) : Strand ρ → Strand ρ → Prop
  | mk {t : τ} {a b : Activity (ρ t)} : a.Twins C Eq b → Twins C ⟨t, a⟩ ⟨t, b⟩

theorem Strand.twins_refl (C : Web.Request → Web.Request → Prop) (x : Strand ρ) : x.Twins C x :=
  .mk (Activity.twins_refl C x.rest)

theorem Strand.forall₂_refl (C : Web.Request → Web.Request → Prop) (xs : List (Strand ρ)) :
    List.Forall₂ (Strand.Twins C) xs xs :=
  List.forall₂_same.2 fun x _ => Strand.twins_refl C x

/-- Reactions that leave related states and lead to such strands. -/
structure Reaction.Twins (C : Web.Request → Web.Request → Prop)
    (R : S → S → Prop) (x y : Reaction ρ S) : Prop where
  state : R x.state y.state
  first : List.Forall₂ (Strand.Twins C) x.first y.first
  later : List.Forall₂ (Strand.Twins C) x.later y.later

def Plan.Twins (C : Web.Request → Web.Request → Prop) (R : S → S → Prop) (p q : Plan ρ S) : Prop :=
  ∀ now t (r : ρ t) s s', R s s' → (p now t r s).Twins C R (q now t r s')

inductive Alarm.Twins (C : Web.Request → Web.Request → Prop) : Alarm ρ → Alarm ρ → Prop
  | mk {x y : Strand ρ} (due : Instant) : x.Twins C y → Twins C ⟨due, x⟩ ⟨due, y⟩

namespace Crew

/-- Crews at the same time with strands that ask for the same. -/
structure Twins (C : Web.Request → Web.Request → Prop) (R : S → S → Prop) (V : σ → σ → Prop)
    (c d : Crew ρ S σ) : Prop where
  now : c.now = d.now
  ready : List.Forall₂ (Strand.Twins C) c.ready d.ready
  alarms : List.Forall₂ (Alarm.Twins C) c.alarms d.alarms
  state : R c.state d.state
  surroundings : V c.surroundings d.surroundings

theorem twins_schedule {a b : Alarm ρ} (hab : a.Twins C b) {as bs : List (Alarm ρ)}
    (h : List.Forall₂ (Alarm.Twins C) as bs) :
    List.Forall₂ (Alarm.Twins C) (schedule a as) (schedule b bs) := by
  cases hab with
  | mk due hxy =>
    induction h with
    | nil => exact .cons (.mk due hxy) .nil
    | cons hcd hrest ih =>
      cases hcd with
      | mk later hcd =>
        rw [schedule, schedule]
        split
        · exact .cons (.mk due hxy) (.cons (.mk later hcd) hrest)
        · exact .cons (.mk later hcd) ih

variable {c d : Crew ρ S σ}

theorem Twins.wake (h : Twins C R V c d) : Twins C R V c.wake d.wake := by
  obtain ⟨now, ready, as, s, w⟩ := c
  obtain ⟨_, ready', bs, t, w'⟩ := d
  obtain ⟨rfl, hready, halarms, hstate, hworld⟩ := h
  have hdue (limit : Instant) {as bs : List (Alarm ρ)} (h : List.Forall₂ (Alarm.Twins C) as bs) :
      List.Forall₂ (Strand.Twins C) ((as.takeWhile (·.due ≤ limit)).map (·.strand))
          ((bs.takeWhile (·.due ≤ limit)).map (·.strand)) ∧
        List.Forall₂ (Alarm.Twins C) (as.dropWhile (·.due ≤ limit))
          (bs.dropWhile (·.due ≤ limit)) := by
    induction h with
    | nil => exact ⟨.nil, .nil⟩
    | cons hab hrest ih =>
      cases hab with
      | mk due hxy =>
        rw [List.takeWhile_cons, List.takeWhile_cons, List.dropWhile_cons, List.dropWhile_cons]
        split
        · exact ⟨.cons hxy ih.1, ih.2⟩
        · exact ⟨.nil, .cons (.mk due hxy) hrest⟩
  cases halarms with
  | nil => exact ⟨rfl, hready, .nil, hstate, hworld⟩
  | cons hab hrest =>
    cases hab with
    | mk due hxy =>
      obtain ⟨hfirst, hlater⟩ := hdue due (.cons (.mk due hxy) hrest)
      exact ⟨rfl, hfirst, hlater, hstate, hworld⟩

variable {p q : Plan ρ S} {o : Outside σ}

/-- The next turn of both crews, or the end of both. -/
theorem Twins.turn (h : Twins C R V c d) (hpq : Plan.Twins C R p q) (ho : o.Blind C V) :
    Option.Rel (Twins C R V) (c.turn p o) (d.turn q o) := by
  have hwake := h.wake
  obtain ⟨now, ready, as, s, w⟩ := c
  obtain ⟨_, ready', bs, t, w'⟩ := d
  obtain ⟨rfl, hready, halarms, hstate, hworld⟩ := h
  dsimp only at hready halarms hstate hworld
  cases hready with
  | nil =>
    cases halarms with
    | nil => exact .none
    | cons => exact .some hwake
  | cons hxy hrest =>
    cases hxy with
    | @mk t a b hab =>
      obtain ⟨hstage, hleft⟩ := hab.advance ho now hworld
      -- both strands end or both wait, and equally long
      unfold Crew.turn
      dsimp only
      generalize a.advance o now w = x at hstage hleft
      generalize b.advance o now w' = y at hstage hleft
      obtain ⟨stage, w⟩ := x
      obtain ⟨stage', w'⟩ := y
      cases hstage with
      | ended hr =>
        cases hr
        obtain ⟨hstate, hfirst, hlater⟩ := hpq now t _ _ _ hstate
        exact .some ⟨rfl, List.rel_append (List.rel_append hfirst hrest) hlater,
          halarms, hstate, hleft⟩
      | waiting delay hrest' =>
        exact .some ⟨rfl, hrest, twins_schedule (.mk _ (.mk hrest')) halarms, hstate, hleft⟩

/-- Crews in step stay so. -/
theorem Twins.runUntil (h : Twins C R V c d) (hpq : Plan.Twins C R p q) (ho : o.Blind C V)
    {enough : S → Bool} (henough : ∀ s t, R s t → enough s = enough t) (fuel : Nat) :
    Twins C R V (runUntil p o enough fuel c) (runUntil q o enough fuel d) := by
  induction fuel generalizing c d with
  | zero => exact h
  | succ fuel ih =>
    rw [Crew.runUntil, Crew.runUntil, henough _ _ h.state]
    split
    · exact h
    · have hturn := h.turn hpq ho
      revert hturn
      generalize c.turn p o = x
      generalize d.turn q o = y
      rintro (hcd | -)
      · exact ih hcd
      · exact h

end Crew
end
end TestWorker
