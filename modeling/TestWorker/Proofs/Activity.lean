import TestWorker.Outside

namespace TestWorker

/-- One effect of a run: when it was asked for, and what was replied. -/
structure Moment where
  instant : Instant
  effect : Effect
  reply : effect.Reply

def Moment.exchange? : Moment → Option (Web.Request × Except Fault Web.Response)
  | ⟨_, .exchange r, answer⟩ => some (r, answer)
  | _ => none

def exchanges (ms : List Moment) : List (Web.Request × Except Fault Web.Response) :=
  ms.filterMap Moment.exchange?

def Effect.isClock : Effect → Prop
  | .clock => True
  | _ => False

def Effect.isExchange : Effect → Prop
  | .exchange _ => True
  | _ => False

namespace Activity
variable {σ α β : Type}

def trace (o : Outside σ) : Activity α → Instant → σ → List Moment
  | done _, _, _ => []
  | ask e next, now, s =>
    let r := o.reply e now s
    ⟨now, e, r.value⟩ :: (next r.value).trace o (now + r.delay) r.state

/-- Whatever is replied, the result has the property. -/
def Yields (P : α → Prop) : Activity α → Prop
  | done a => P a
  | ask _ next => ∀ r, (next r).Yields P

def Asks (Q : Effect → Prop) : Activity α → Prop
  | done _ => True
  | ask e next => Q e ∧ ∀ r, (next r).Asks Q

/-- Whatever is replied, there is one exchange. Its request has the one property, and the answer and
the result are in the relation. -/
def Sends (P : Web.Request → Prop) (Q : Except Fault Web.Response → α → Prop) : Activity α → Prop
  | done _ => False
  | ask (.exchange r) next => P r ∧ ∀ answer : Except Fault Web.Response,
    (next answer).Asks (fun e => ¬e.isExchange) ∧ (next answer).Yields (Q answer)
  | ask .clock next | ask (.print _) next | ask (.cookies _) next | ask (.remember ..) next
  | ask (.step _) next | ask (.query _) next | ask (.draw _) next | ask (.pause _) next =>
    ∀ r, (next r).Sends P Q

/-- Whatever is replied, what is noted of the effects and the result have the property. -/
def Logs {ε : Type} (note? : (e : Effect) → e.Reply → Option ε) :
    Activity α → (List ε → α → Prop) → Prop
  | done a, P => P [] a
  | ask e next, P => ∀ r, (next r).Logs note? fun log a => P ((note? e r).toList ++ log) a

@[simp] theorem run_pure (o : Outside σ) (a : α) (now : Instant) (s : σ) :
    (pure a : Activity α).run o now s = (a, now, s) := rfl

@[simp] theorem trace_pure (o : Outside σ) (a : α) (now : Instant) (s : σ) :
    (pure a : Activity α).trace o now s = [] := rfl

@[simp] theorem done_bind (a : α) (f : α → Activity β) : done a >>= f = f a := rfl

theorem bind_assoc {γ : Type} (a : Activity α) (f : α → Activity β) (g : β → Activity γ) :
    a >>= f >>= g = a >>= fun x => f x >>= g := by
  induction a with
  | done a => rfl
  | ask e next ih => exact congrArg (ask e) (funext ih)

@[simp] theorem run_done (o : Outside σ) (a : α) (now : Instant) (s : σ) :
    (done a).run o now s = (a, now, s) := rfl

@[simp] theorem trace_done (o : Outside σ) (a : α) (now : Instant) (s : σ) :
    (done a).trace o now s = [] := rfl

theorem run_bind (o : Outside σ) (a : Activity α) (f : α → Activity β) (now : Instant) (s : σ) :
    (a >>= f).run o now s =
      (f (a.run o now s).1).run o (a.run o now s).2.1 (a.run o now s).2.2 := by
  induction a generalizing now s with
  | done a => rfl
  | ask e next ih => exact ih _ _ _

theorem trace_bind (o : Outside σ) (a : Activity α) (f : α → Activity β) (now : Instant) (s : σ) :
    (a >>= f).trace o now s = a.trace o now s ++
      (f (a.run o now s).1).trace o (a.run o now s).2.1 (a.run o now s).2.2 := by
  induction a generalizing now s with
  | done a => rfl
  | ask e next ih => exact congrArg _ (ih _ _ _)

theorem exchanges_bind (o : Outside σ) (a : Activity α) (f : α → Activity β)
    (now : Instant) (s : σ) :
    exchanges ((a >>= f).trace o now s) = exchanges (a.trace o now s) ++
      exchanges ((f (a.run o now s).1).trace o (a.run o now s).2.1 (a.run o now s).2.2) := by
  rw [trace_bind, exchanges, List.filterMap_append]
  rfl

@[simp] theorem run_now (o : Outside σ) (now : Instant) (s : σ) :
    Activity.now.run o now s = (now, now, s) := rfl

@[simp] theorem trace_now (o : Outside σ) (now : Instant) (s : σ) :
    Activity.now.trace o now s = [⟨now, .clock, now⟩] := rfl

@[simp] theorem run_since (o : Outside σ) (started now : Instant) (s : σ) :
    (since started).run o now s = (Clock.elapsed started now, now, s) := rfl

@[simp] theorem trace_since (o : Outside σ) (started now : Instant) (s : σ) :
    (since started).trace o now s = [⟨now, .clock, now⟩] := rfl

theorem le_run (o : Outside σ) (a : Activity α) (now : Instant) (s : σ) :
    now ≤ (a.run o now s).2.1 := by
  induction a generalizing now s with
  | done a => exact Nat.le_refl _
  | ask e next ih => exact Nat.le_trans (Nat.le_add_right _ _) (ih _ _ _)

@[simp] theorem yields_pure {P : α → Prop} {a : α} : (pure a : Activity α).Yields P ↔ P a := Iff.rfl

@[simp] theorem yields_done {P : α → Prop} {a : α} : (done a).Yields P ↔ P a := Iff.rfl

@[simp] theorem yields_bind {P : β → Prop} {a : Activity α} {f : α → Activity β} :
    (a >>= f).Yields P ↔ a.Yields fun x => (f x).Yields P := by
  induction a with
  | done a => rfl
  | ask e next ih => exact forall_congr' ih

theorem Yields.mono {P Q : α → Prop} {a : Activity α} (h : a.Yields P) (hPQ : ∀ x, P x → Q x) :
    a.Yields Q := by
  induction a with
  | done a => exact hPQ a h
  | ask e next ih => exact fun r => ih r (h r)

theorem yields_of_forall {P : α → Prop} (a : Activity α) (h : ∀ x, P x) : a.Yields P := by
  induction a with
  | done a => exact h a
  | ask e next ih => exact fun r => ih r

theorem Yields.run {P : α → Prop} {a : Activity α} (h : a.Yields P) (o : Outside σ)
    (now : Instant) (s : σ) : P (a.run o now s).1 := by
  induction a generalizing now s with
  | done a => exact h
  | ask e next ih => exact ih _ (h _) _ _

theorem yields_run_bind {P : α → β → Prop} {f : α → Activity β} (h : ∀ x, (f x).Yields (P x))
    (a : Activity α) (o : Outside σ) (now : Instant) (s : σ) :
    P (a.run o now s).1 ((a >>= f).run o now s).1 := by
  rw [run_bind]
  exact (h _).run o _ _

@[simp] theorem asks_pure {Q : Effect → Prop} {a : α} : (pure a : Activity α).Asks Q ↔ True :=
  Iff.rfl

@[simp] theorem asks_done {Q : Effect → Prop} {a : α} : (done a).Asks Q ↔ True := Iff.rfl

@[simp] theorem asks_bind {Q : Effect → Prop} {a : Activity α} {f : α → Activity β} :
    (a >>= f).Asks Q ↔ a.Asks Q ∧ a.Yields fun x => (f x).Asks Q := by
  induction a with
  | done a => exact (iff_of_eq (true_and _)).symm
  | ask e next ih =>
    constructor
    · intro h
      exact ⟨⟨h.1, fun r => ((ih r).1 (h.2 r)).1⟩, fun r => ((ih r).1 (h.2 r)).2⟩
    · intro h
      exact ⟨h.1.1, fun r => (ih r).2 ⟨h.1.2 r, h.2 r⟩⟩

theorem Asks.trace {Q : Effect → Prop} {a : Activity α} (h : a.Asks Q) (o : Outside σ)
    (now : Instant) (s : σ) : ∀ m ∈ a.trace o now s, Q m.effect := by
  induction a generalizing now s with
  | done a => simp
  | ask e next ih =>
    intro m hm
    rcases List.mem_cons.1 hm with rfl | hm
    · exact h.1
    · exact ih _ (h.2 _) _ _ m hm

theorem Asks.exchanges_eq_nil {a : Activity α} (h : a.Asks fun e => ¬e.isExchange) (o : Outside σ)
    (now : Instant) (s : σ) : exchanges (a.trace o now s) = [] := by
  rw [exchanges, List.filterMap_eq_nil_iff]
  rintro ⟨t, e, r⟩ hm
  have he := h.trace o now s _ hm
  cases e <;> first | rfl | exact absurd trivial he

theorem sends_ask {P : Web.Request → Prop} {Q : Except Fault Web.Response → α → Prop} {e : Effect}
    {next : e.Reply → Activity α} (he : ¬e.isExchange) :
    (ask e next).Sends P Q ↔ ∀ r, (next r).Sends P Q := by
  cases e with
  | exchange r => exact absurd trivial he
  | _ => exact Iff.rfl

theorem sends_after {P : Web.Request → Prop} {Q : Except Fault Web.Response → β → Prop}
    {a : Activity α} {f : α → Activity β} (ha : a.Asks fun e => ¬e.isExchange)
    (h : a.Yields fun x => (f x).Sends P Q) : (a >>= f).Sends P Q := by
  induction a with
  | done a => exact h
  | ask e next ih => exact (sends_ask ha.1).2 fun r => ih r (ha.2 r) (h r)

theorem Sends.mono {P P' : Web.Request → Prop} {Q Q' : Except Fault Web.Response → α → Prop}
    {a : Activity α} (h : a.Sends P Q) (hP : ∀ r, P r → P' r)
    (hQ : ∀ answer x, Q answer x → Q' answer x) : a.Sends P' Q' := by
  induction a with
  | done a => exact h.elim
  | ask e next ih =>
    cases e with
    | exchange r =>
      exact ⟨hP r h.1, fun answer => ⟨(h.2 answer).1, (h.2 answer).2.mono (hQ answer)⟩⟩
    | _ => exact fun r => ih r (h r)

theorem Sends.bind {P : Web.Request → Prop} {Q : Except Fault Web.Response → α → Prop}
    {Q' : Except Fault Web.Response → β → Prop} {a : Activity α} {f : α → Activity β}
    (h : a.Sends P Q)
    (hf : ∀ answer x, Q answer x → (f x).Asks (fun e => ¬e.isExchange) ∧ (f x).Yields (Q' answer)) :
    (a >>= f).Sends P Q' := by
  induction a with
  | done a => exact h.elim
  | ask e next ih =>
    cases e with
    | exchange r =>
      refine ⟨h.1, fun answer => ?_⟩
      obtain ⟨hasks, hyields⟩ := h.2 answer
      -- the exchange is over: `f` may not send another, and it sees the answer through `Q` alone
      exact ⟨asks_bind.2 ⟨hasks, hyields.mono fun x hx => (hf answer x hx).1⟩,
        yields_bind.2 (hyields.mono fun x hx => (hf answer x hx).2)⟩
    | _ => exact fun r => ih r (h r)

theorem Sends.run {P : Web.Request → Prop} {Q : Except Fault Web.Response → α → Prop}
    {a : Activity α} (h : a.Sends P Q) (o : Outside σ) (now : Instant) (s : σ) :
    ∃ r answer, exchanges (a.trace o now s) = [(r, answer)] ∧ P r ∧ Q answer (a.run o now s).1 := by
  induction a generalizing now s with
  | done a => exact h.elim
  | ask e next ih =>
    cases e with
    | exchange r =>
      obtain ⟨hasks, hyields⟩ := h.2 (o.reply (.exchange r) now s).value
      exact ⟨r, (o.reply (.exchange r) now s).value, congrArg _ (hasks.exchanges_eq_nil o _ _), h.1,
        hyields.run o _ _⟩
    | _ => exact ih _ (h _) _ _

section
variable {ε : Type} {note? : (e : Effect) → e.Reply → Option ε} {P Q : List ε → α → Prop}

@[simp] theorem logs_done {a : α} : (done a).Logs note? P ↔ P [] a := Iff.rfl

@[simp] theorem logs_pure {a : α} : (pure a : Activity α).Logs note? P ↔ P [] a := Iff.rfl

@[simp] theorem logs_bind {P : List ε → β → Prop} {a : Activity α} {f : α → Activity β} :
    (a >>= f).Logs note? P ↔
      a.Logs note? fun log x => (f x).Logs note? fun log' y => P (log ++ log') y := by
  induction a generalizing P with
  | done a => exact Iff.rfl
  | ask e next ih =>
    refine forall_congr' fun r => (ih r).trans ?_
    simp only [List.append_assoc]

theorem Logs.mono {a : Activity α} (h : a.Logs note? P) (hPQ : ∀ log x, P log x → Q log x) :
    a.Logs note? Q := by
  induction a generalizing P Q with
  | done a => exact hPQ [] a h
  | ask e next ih => exact fun r => ih r (h r) fun log x => hPQ _ x

theorem Logs.run {a : Activity α} (h : a.Logs note? P) (o : Outside σ) (now : Instant) (s : σ) :
    P ((a.trace o now s).filterMap fun m => note? m.effect m.reply) (a.run o now s).1 := by
  induction a generalizing P now s with
  | done a => exact h
  | ask e next ih =>
    have hrest :=
      ih _ (h (o.reply e now s).value) (now + (o.reply e now s).delay) (o.reply e now s).state
    rw [trace, run, List.filterMap_cons]
    cases hnote : note? e (o.reply e now s).value with
    | none => simpa [hnote] using hrest
    | some entry => simpa [hnote] using hrest

theorem logs_now {P : List ε → Instant → Prop} (hclock : ∀ t : Instant, note? .clock t = none) :
    now.Logs note? P ↔ ∀ t, P [] t := by
  refine forall_congr' fun t => ?_
  rw [hclock t]
  exact Iff.rfl

theorem logs_since {P : List ε → Double → Prop} (hclock : ∀ t : Instant, note? .clock t = none)
    {started : Instant} : (since started).Logs note? P ↔ ∀ t, P [] (Clock.elapsed started t) := by
  rw [since, logs_bind, logs_now hclock]
  exact Iff.rfl

end

end Activity

namespace Attempt
variable {α β : Type}

@[simp] theorem outcome_pure (a : α) : (pure a : Attempt α).outcome = .done (.ok a) := rfl

@[simp] theorem outcome_throw (f : Fault) : (throw f : Attempt α).outcome = .done (.error f) := rfl

@[simp] theorem outcome_ofExcept (x : Except Fault α) : (ofExcept x).outcome = .done x := by
  cases x <;> rfl

@[simp] theorem outcome_liftM (a : Activity α) :
    (liftM a : Attempt α).outcome = a >>= fun x => .done (.ok x) := rfl

@[simp] theorem outcome_perform (e : Effect) :
    (perform e).outcome = .ask e fun r => .done (.ok r) := rfl

@[simp] theorem outcome_bind (t : Attempt α) (f : α → Attempt β) :
    (t >>= f).outcome = t.outcome >>= fun
      | .ok a => (f a).outcome
      | .error e => .done (.error e) := by
  change Activity.bind _ _ = _
  refine congrArg _ (funext fun x => ?_)
  cases x <;> rfl

def Gives (P : α → Prop) (t : Attempt α) : Prop := t.outcome.Yields fun x => ∀ a, x = .ok a → P a

@[simp] theorem gives_pure {P : α → Prop} {a : α} : (pure a : Attempt α).Gives P ↔ P a := by
  simp [Gives]

@[simp] theorem gives_throw {P : α → Prop} {f : Fault} : (throw f : Attempt α).Gives P ↔ True := by
  simp [Gives]

@[simp] theorem gives_ofExcept {P : α → Prop} {x : Except Fault α} :
    (ofExcept x).Gives P ↔ ∀ a, x = .ok a → P a := by
  simp [Gives]

@[simp] theorem gives_liftM {P : α → Prop} {a : Activity α} :
    (liftM a : Attempt α).Gives P ↔ a.Yields P := by
  simp [Gives]

@[simp] theorem gives_bind {P : β → Prop} {t : Attempt α} {f : α → Attempt β} :
    (t >>= f).Gives P ↔ t.Gives fun a => (f a).Gives P := by
  rw [Gives, outcome_bind, Activity.yields_bind]
  constructor
  · intro h
    exact h.mono fun x hx a ha => by subst ha; exact hx
  · intro h
    refine h.mono fun x hx => ?_
    cases x with
    | ok a => exact hx a rfl
    | error e => simp

theorem gives_of_forall {P : α → Prop} (t : Attempt α) (h : ∀ a, P a) : t.Gives P :=
  Activity.yields_of_forall _ fun _ a _ => h a

theorem gives_after {P : β → Prop} (t : Attempt α) {f : α → Attempt β} (h : ∀ a, (f a).Gives P) :
    (t >>= f).Gives P :=
  gives_bind.2 (gives_of_forall t h)

end Attempt
end TestWorker
