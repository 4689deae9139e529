import TestWorker.Proofs.Crew.History

namespace TestWorker

/-- Jars that offer the same to every address. -/
def Web.Jar.Agrees (i j : Web.Jar) : Prop := ∀ u, i.header? u = j.header? u

/-- Effects whose reply is neither a time nor a jar. -/
def Effect.isFixed : Effect → Prop
  | .clock | .cookies _ => False
  | _ => True

/-- Two clocks with a time of each. They go side by side from these times on, where they are told
to. -/
structure Clocks where
  timed : Prop
  first : Nat
  second : Nat

/-- As much time has passed on the one clock as on the other. -/
def Clocks.Agree (k : Clocks) (s t : Nat) : Prop := k.timed → s + k.second = t + k.first

theorem Clocks.Agree.later {k : Clocks} {s t d e : Nat} (h : k.Agree s t) (hde : k.timed → d = e) :
    k.Agree (s + d) (t + e) := by
  intro htimed
  have hst := h htimed
  have hdelay := hde htimed
  omega

theorem Clocks.Agree.elapsed {k : Clocks} {s t s' t' : Nat} (h : k.Agree s t) (h' : k.Agree s' t')
    (htimed : k.timed) : Clock.elapsed s s' = Clock.elapsed t t' := by
  have hst := h htimed
  have hst' := h' htimed
  have hdiff : s' - s = t' - t := by omega
  rw [Clock.elapsed, Clock.elapsed, hdiff]

namespace Activity
variable {α β γ δ : Type} {k : Clocks} {R : α → β → Prop} {a : Activity α} {b : Activity β}

inductive Alike (k : Clocks) (R : α → β → Prop) : Activity α → Activity β → Prop
  | done {x : α} {y : β} : R x y → Alike k R (.done x) (.done y)
  | clock {f : Instant → Activity α} {g : Instant → Activity β} :
    (∀ s t, k.Agree s t → Alike k R (f s) (g t)) → Alike k R (.ask .clock f) (.ask .clock g)
  | cookies {f : Web.Jar → Activity α} {g : Web.Jar → Activity β} :
    (∀ i j : Web.Jar, i.Agrees j → Alike k R (f i) (g j)) →
    Alike k R (.ask (.cookies .targets) f) (.ask (.cookies .targets) g)
  | fixed {e : Effect} {f : e.Reply → Activity α} {g : e.Reply → Activity β} : e.isFixed →
    (∀ r, Alike k R (f r) (g r)) → Alike k R (.ask e f) (.ask e g)

theorem Alike.mono {S : α → β → Prop} (h : Alike k R a b) (hRS : ∀ x y, R x y → S x y) :
    Alike k S a b := by
  induction h with
  | done hxy => exact .done (hRS _ _ hxy)
  | clock _ ih => exact .clock ih
  | cookies _ ih => exact .cookies ih
  | fixed he _ ih => exact .fixed he ih

theorem Alike.bind {S : γ → δ → Prop} {f : α → Activity γ} {g : β → Activity δ} (h : Alike k R a b)
    (hfg : ∀ x y, R x y → Alike k S (f x) (g y)) : Alike k S (a >>= f) (b >>= g) := by
  induction h with
  | done hxy => exact hfg _ _ hxy
  | clock _ ih => exact .clock ih
  | cookies _ ih => exact .cookies ih
  | fixed he _ ih => exact .fixed he ih

theorem alike_now : Alike k k.Agree now now := .clock fun _ _ h => .done h

theorem alike_since {s t : Instant} (h : k.Agree s t) :
    Alike k (fun x y => k.timed → x = y) (since s) (since t) :=
  .clock fun _ _ h' => .done (h.elapsed h')

theorem alike_refl (k : Clocks) {a : Activity α} (h : a.Asks Effect.isFixed) : Alike k Eq a a := by
  induction a with
  | done x => exact .done rfl
  | ask e next ih => exact .fixed h.1 fun r => ih r (h.2 r)

end Activity

/-- The cookies that a session has after an effect. -/
def Effect.kept (j : Web.Jar) : Effect → Web.Jar
  | .remember .targets u lines => j.keep u lines
  | _ => j

def Beat.Offers (j : Web.Jar) : Beat → Prop
  | ⟨⟨_, .cookies .targets, i⟩, _⟩ => Web.Jar.Agrees i j
  | _ => True

/-- What is replied is a matter of the effects alone, but for the time; and the cookies that are
offered are those that have been set in the course of the effects. -/
def Apart (reply : (e : Effect) → e.Reply) : Web.Jar → List Beat → Prop
  | _, [] => True
  | j, b :: bs =>
    (b.effect.isFixed → b.reply = reply b.effect) ∧ b.Offers j ∧ Apart reply (b.effect.kept j) bs

theorem Apart.of_append {reply : (e : Effect) → e.Reply} {bs cs : List Beat} {j : Web.Jar}
    (h : Apart reply j (bs ++ cs)) : Apart reply j bs := by
  induction bs generalizing j with
  | nil => trivial
  | cons b bs ih => exact ⟨h.1, h.2.1, ih h.2.2⟩

/-- How long replies take is a matter of the effects alone. -/
def Takes (delay : Effect → Nat) (bs : List Beat) : Prop := ∀ b ∈ bs, b.delay = delay b.effect

def alone (reply : (e : Effect) → e.Reply) (delay : Effect → Nat) : Outside Web.Jar
  | .cookies .targets, _, j => ⟨j, delay (.cookies .targets), j⟩
  | e, _, j => ⟨reply e, delay e, e.kept j⟩

theorem apart_beats {α : Type} (reply : (e : Effect) → e.Reply)
    (delay : Effect → Nat) (a : Activity α) (now : Instant) (j : Web.Jar) :
    Apart reply j (a.beats (alone reply delay) now j) := by
  induction a generalizing now j with
  | done r => trivial
  | ask e next ih =>
    cases e with
    | clock => exact ⟨fun h => h.elim, trivial, ih _ _ _⟩
    | cookies s =>
      cases s with
      | targets => exact ⟨fun h => h.elim, fun _ => rfl, ih _ _ _⟩
      | coordinator => exact ⟨fun h => h.elim, trivial, ih _ _ _⟩
    | _ => exact ⟨fun _ => rfl, trivial, ih _ _ _⟩

theorem takes_beats {α : Type} (reply : (e : Effect) → e.Reply)
    {delay : Effect → Nat} (hclock : delay .clock = 0) (hpause : ∀ p, delay (.pause p) = p)
    (a : Activity α) (now : Instant) (j : Web.Jar) :
    Takes delay (a.beats (alone reply delay) now j) := by
  induction a generalizing now j with
  | done r => exact List.forall_mem_nil _
  | ask e next ih =>
    refine List.forall_mem_cons.2 ⟨?_, ih _ _ _⟩
    cases e with
    | clock => exact hclock.symm
    | pause p => exact (hpause p).symm
    | cookies s => cases s <;> rfl
    | _ => rfl

def requestsOf (bs : List Beat) : List Web.Request :=
  (exchanges (bs.map Beat.toMoment)).map Prod.fst

namespace Activity
variable {α β : Type} {k : Clocks} {R : α → β → Prop} {a : Activity α} {b : Activity β}

theorem Alike.asks (h : Alike k R a b) (hk : ¬k.timed) : a.Asks (· ≠ .cookies .coordinator) := by
  induction h with
  | done => trivial
  | clock _ ih => exact ⟨nofun, fun s => ih s s fun htimed => absurd htimed hk⟩
  | cookies _ ih => exact ⟨nofun, fun i => ih i i fun _ => rfl⟩
  | fixed he _ ih =>
    refine ⟨?_, ih⟩
    rintro rfl
    exact he

theorem requestsOf_cons_congr {bs cs : List Beat} {e : Effect} {s t d d' : Nat} {r r' : e.Reply}
    (h : requestsOf bs = requestsOf cs) :
    requestsOf (⟨⟨s, e, r⟩, d⟩ :: bs) = requestsOf (⟨⟨t, e, r'⟩, d'⟩ :: cs) := by
  cases e with
  | exchange q => exact congrArg (q :: ·) h
  | _ => exact h

theorem goes_ask {e : Effect} {next : e.Reply → Activity α} {s s' : Instant}
    {bs : List Beat} {x : α} (h : Goes s (.ask e next) bs s' (.done x)) :
    ∃ r d cs, bs = ⟨⟨s, e, r⟩, d⟩ :: cs ∧
      Beat.Timely ⟨⟨s, e, r⟩, d⟩ ∧ Goes (s + d) (next r) cs s' (.done x) := by
  cases h with
  | reply htimely hrest => exact ⟨_, _, _, rfl, htimely, hrest⟩

theorem takes_tail {delay : Effect → Nat} {b c : Beat} {bs cs : List Beat}
    (h : k.timed → Takes delay (b :: bs) ∧ Takes delay (c :: cs)) (he : b.effect = c.effect) :
    (k.timed → b.delay = c.delay) ∧ (k.timed → Takes delay bs ∧ Takes delay cs) := by
  refine ⟨fun htimed => ?_, fun htimed => ?_⟩
  · rw [(h htimed).1 b List.mem_cons_self, (h htimed).2 c List.mem_cons_self, he]
  · exact ⟨(List.forall_mem_cons.1 (h htimed).1).2, (List.forall_mem_cons.1 (h htimed).2).2⟩

/-- Strands that are replied the same, with cookies of their own and clocks that go side by side:
they send the same requests and come to results in the relation. -/
theorem Alike.goes (h : Alike k R a b) {s t s' t' : Instant} {bs cs : List Beat}
    {x : α} {y : β} {j : Web.Jar} {reply : (e : Effect) → e.Reply} {delay : Effect → Nat}
    (ha : Goes s a bs s' (.done x)) (hb : Goes t b cs t' (.done y)) (hbs : Apart reply j bs)
    (hcs : Apart reply j cs) (htakes : k.timed → Takes delay bs ∧ Takes delay cs)
    (hst : k.Agree s t) :
    requestsOf bs = requestsOf cs ∧ R x y := by
  induction h generalizing s t bs cs j with
  | done hxy =>
    obtain ⟨rfl, -, hx⟩ := ha.of_done
    obtain ⟨rfl, -, hy⟩ := hb.of_done
    cases hx
    cases hy
    exact ⟨rfl, hxy⟩
  | clock _ ih =>
    obtain ⟨r, d, bs, rfl, ⟨hr, hd⟩, ha⟩ := goes_ask ha
    obtain ⟨r', d', cs, rfl, ⟨hr', hd'⟩, hb⟩ := goes_ask hb
    subst hr hd hr' hd'
    exact (ih _ _ hst ha hb hbs.2.2 hcs.2.2 (takes_tail htakes rfl).2 hst).imp_left
      requestsOf_cons_congr
  | cookies _ ih =>
    obtain ⟨i, d, bs, rfl, -, ha⟩ := goes_ask ha
    obtain ⟨i', d', cs, rfl, -, hb⟩ := goes_ask hb
    obtain ⟨hdelay, hrest⟩ := takes_tail htakes rfl
    have hjars : Web.Jar.Agrees i i' := fun u => (hbs.2.1 u).trans (hcs.2.1 u).symm
    exact (ih i i' hjars ha hb hbs.2.2 hcs.2.2 hrest (hst.later hdelay)).imp_left
      requestsOf_cons_congr
  | fixed he _ ih =>
    obtain ⟨r, d, bs, rfl, -, ha⟩ := goes_ask ha
    obtain ⟨r', d', cs, rfl, -, hb⟩ := goes_ask hb
    obtain ⟨hdelay, hrest⟩ := takes_tail htakes rfl
    obtain rfl : r = r' := (hbs.1 he).trans (hcs.1 he).symm
    exact (ih r ha hb hbs.2.2 hcs.2.2 hrest (hst.later hdelay)).imp_left requestsOf_cons_congr

end Activity

def ExceptAlike {α β : Type} (R : α → β → Prop) : Except Fault α → Except Fault β → Prop
  | .ok x, .ok y => R x y
  | .error f, .error g => f = g
  | _, _ => False

theorem exceptAlike_refl {α : Type} (x : Except Fault α) : ExceptAlike Eq x x := by
  cases x <;> rfl

theorem exceptAlike_mono {α β : Type} {R S : α → β → Prop} {x : Except Fault α} {y : Except Fault β}
    (h : ExceptAlike R x y) (hRS : ∀ x y, R x y → S x y) : ExceptAlike S x y := by
  cases x <;> cases y <;> first | exact h | exact hRS _ _ h

theorem eq_of_exceptAlike {α : Type} {x y : Except Fault α} (h : ExceptAlike Eq x y) : x = y := by
  cases x <;> cases y <;> first | exact congrArg _ h | exact h.elim

namespace Attempt
variable {α β γ δ : Type} {k : Clocks} {R : α → β → Prop}

def Alike (k : Clocks) (R : α → β → Prop) (t : Attempt α) (u : Attempt β) : Prop :=
  Activity.Alike k (ExceptAlike R) t.outcome u.outcome

theorem Alike.pure {x : α} {y : β} (h : R x y) : Alike k R (Pure.pure x) (Pure.pure y) := .done h

theorem alike_throw (f : Fault) : Alike k R (throw f) (throw f) := .done rfl

theorem alike_ofExcept (k : Clocks) (x : Except Fault α) :
    Alike k Eq (ofExcept x) (ofExcept x) := by
  rw [Alike, outcome_ofExcept]
  exact .done (exceptAlike_refl x)

theorem Alike.bind {S : γ → δ → Prop} {t : Attempt α} {u : Attempt β} {f : α → Attempt γ}
    {g : β → Attempt δ} (h : Alike k R t u) (hfg : ∀ x y, R x y → Alike k S (f x) (g y)) :
    Alike k S (t >>= f) (u >>= g) := by
  rw [Alike, outcome_bind, outcome_bind]
  refine Activity.Alike.bind h fun x y hxy => ?_
  cases x <;> cases y
  · obtain rfl : _ = _ := hxy
    exact .done rfl
  · exact hxy.elim
  · exact hxy.elim
  · exact hfg _ _ hxy

theorem Alike.bind_eq {S : γ → δ → Prop} {t u : Attempt α} {f : α → Attempt γ} {g : α → Attempt δ}
    (h : Alike k Eq t u) (hfg : ∀ x, Alike k S (f x) (g x)) : Alike k S (t >>= f) (u >>= g) :=
  h.bind fun x _ hxy => hxy ▸ hfg x

theorem Alike.lift {a : Activity α} {b : Activity β} (h : Activity.Alike k R a b) :
    Alike k R (liftM a) (liftM b) := by
  rw [Alike, outcome_liftM, outcome_liftM]
  exact h.bind fun _ _ hxy => .done hxy

theorem alike_refl (k : Clocks) {t : Attempt α} (h : t.outcome.Asks Effect.isFixed) :
    Alike k Eq t t := by
  refine (Activity.alike_refl k h).mono ?_
  rintro x _ rfl
  exact exceptAlike_refl x

theorem alike_perform (k : Clocks) {e : Effect} (he : e.isFixed) :
    Alike k Eq (perform e) (perform e) :=
  alike_refl k ⟨he, fun _ => trivial⟩

end Attempt

end TestWorker
