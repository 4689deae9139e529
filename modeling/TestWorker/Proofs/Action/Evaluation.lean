import TestWorker.Action
import TestWorker.Proofs.Activity
import TestWorker.Proofs.Clock

namespace TestWorker

namespace Activity

@[simp] theorem yields_now {P : Instant → Prop} : Activity.now.Yields P ↔ ∀ t, P t := Iff.rfl

@[simp] theorem yields_since {P : Double → Prop} {started : Instant} :
    (since started).Yields P ↔ ∀ t, P (Clock.elapsed started t) := Iff.rfl

end Activity

@[simp] theorem Attempt.gives_take {P : Report → Prop} {action : String} {success : Bool}
    {summary : String} {started : Instant} {details : Option String} :
    (Report.take action success summary started details).Gives P ↔
      ∀ t, P { action, success, summary, details, time := Clock.elapsed started t } := by
  simp [Report.take]

namespace Action

def told (f : Fault) : String := f.kind ++ ": " ++ f.message

/-- The variables after an evaluation, by its report. They are as they were, or they have what was
stored; and a generated value is stored before its text is made, so that it stays where there is no
text. -/
inductive Left (name : String) (p : Entries) (c : Context) (r : Report) : Context → Prop
  | unchanged : Left name p c r c
  | stored {v : Value} {c' : Context} : store c (HttpCall.parameter p "variable") v = .ok c' →
      r.success = true → Left name p c r c'
  | untold {v : Value} {e : Value.Excess} {c' : Context} : name = "Faker.generate" →
      store c (HttpCall.parameter p "variable") v = .ok c' → v.excess? Value.nestingLimit = some e →
      r.success = false → r.summary = told (.unwritable e) → Left name p c r c'

/-- One report under the name, and what it says of the variables. -/
def Settles (name : String) (p : Entries) (c : Context) (x : Outcome × Context) : Prop :=
  ∃ r, x.1.reports = [r] ∧ r.action = name ∧ r.time.AtLeastZero ∧ Left name p c r x.2

theorem Settles.eq_or_store {name : String} {p : Entries} {c : Context}
    {x : Outcome × Context} (h : Settles name p c x) :
    x.2 = c ∨ ∃ v, store c (HttpCall.parameter p "variable") v = .ok x.2 := by
  obtain ⟨r, -, -, -, hleft⟩ := h
  cases hleft with
  | unchanged => exact .inl rfl
  | stored hv _ => exact .inr ⟨_, hv⟩
  | untold _ hv _ _ _ => exact .inr ⟨_, hv⟩

@[simp] theorem gives_failed {P : Outcome → Prop} {name summary : String} {started : Instant}
    {details : Option String} {response : Value} :
    (failed name summary started details response).Gives P ↔
      ∀ t, P { reports := [{ action := name, success := false, summary, details
                             time := Clock.elapsed started t }], response } := by
  simp [failed]

namespace Work
variable {α β : Type} {P : Except Fault α → Context → Prop} {c : Context}

@[simp] theorem outcome_pure (a : α) (c : Context) :
    (pure a : Work α).outcome c = .done (.ok a, c) := rfl

@[simp] theorem outcome_throw (f : Fault) (c : Context) :
    (throw f : Work α).outcome c = .done (.error f, c) := rfl

theorem of_outcome (t : Attempt α) (c : Context) :
    (Work.of t).outcome c = t.outcome >>= fun x => .done (x, c) := rfl

theorem outcome_bind (w : Work α) (f : α → Work β) (c : Context) :
    (w >>= f).outcome c = w.outcome c >>= fun
      | (.ok a, c) => (f a).outcome c
      | (.error e, c) => .done (.error e, c) := by
  change Activity.bind _ _ = _
  refine congrArg _ (funext fun x => ?_)
  obtain ⟨x, c⟩ := x
  cases x <;> rfl

theorem outcome_store (name v : Value) (c : Context) :
    (Work.store name v).outcome c = .done (match Action.store c name v with
      | .ok c => (.ok (), c)
      | .error f => (.error f, c)) := by
  unfold outcome Work.store
  cases Action.store c name v <;> rfl

theorem outcome_ofExcept_bind (x : Except Fault α) (f : α → Work β) (c : Context) :
    (Work.of (Attempt.ofExcept x) >>= f).outcome c = match x with
      | .ok a => (f a).outcome c
      | .error e => .done (.error e, c) := by
  cases x <;> rfl

theorem outcome_store_bind (name v : Value) (f : Unit → Work β) (c : Context) :
    (Work.store name v >>= f).outcome c = match Action.store c name v with
      | .ok c' => (f ()).outcome c'
      | .error e => .done (.error e, c) := by
  rw [outcome_bind, outcome_store]
  cases Action.store c name v <;> rfl

/-- Whatever is replied, result and variables at the end have the property. -/
def Leaves (P : Except Fault α → Context → Prop) (w : Work α) (c : Context) : Prop :=
  (w.outcome c).Yields fun x => P x.1 x.2

@[simp] theorem leaves_pure {a : α} : (pure a : Work α).Leaves P c ↔ P (.ok a) c := Iff.rfl

@[simp] theorem leaves_throw {f : Fault} : (throw f : Work α).Leaves P c ↔ P (.error f) c := Iff.rfl

@[simp] theorem leaves_of {t : Attempt α} :
    (Work.of t).Leaves P c ↔ t.outcome.Yields fun x => P x c := by
  simp [Leaves, outcome, Work.of]

theorem leaves_bind {P : Except Fault β → Context → Prop} {w : Work α} {f : α → Work β} :
    (w >>= f).Leaves P c ↔ w.Leaves (fun x c => match x with
      | .ok a => (f a).Leaves P c
      | .error e => P (.error e) c) c := by
  rw [Leaves, outcome_bind, Activity.yields_bind]
  constructor
  · intro h
    refine h.mono fun x hx => ?_
    obtain ⟨x, c⟩ := x
    cases x <;> exact hx
  · intro h
    refine h.mono fun x hx => ?_
    obtain ⟨x, c⟩ := x
    cases x <;> exact hx

theorem leaves_after {P : Except Fault β → Context → Prop} (t : Attempt α) {f : α → Work β}
    (hfault : ∀ e, P (.error e) c) (h : ∀ a, (f a).Leaves P c) : (Work.of t >>= f).Leaves P c := by
  rw [leaves_bind, leaves_of]
  refine Activity.yields_of_forall _ fun x => ?_
  cases x with
  | ok a => exact h a
  | error e => exact hfault e

theorem leaves_ofExcept {x : Except Fault α} {f : α → Work β}
    {P : Except Fault β → Context → Prop} :
    (Work.of (Attempt.ofExcept x) >>= f).Leaves P c ↔ match x with
      | .ok a => (f a).Leaves P c
      | .error e => P (.error e) c := by
  rw [Leaves, outcome_ofExcept_bind]
  cases x <;> exact Iff.rfl

theorem leaves_store_bind {name v : Value} {f : Unit → Work β}
    {P : Except Fault β → Context → Prop} :
    (Work.store name v >>= f).Leaves P c ↔ match Action.store c name v with
      | .ok c' => (f ()).Leaves P c'
      | .error e => P (.error e) c := by
  rw [Leaves, outcome_store_bind]
  cases Action.store c name v <;> exact Iff.rfl

theorem leaves_store {P : Except Fault β → Context → Prop} {name v : Value} {f : Unit → Work β}
    (hfault : ∀ e, P (.error e) c)
    (h : ∀ c', Action.store c name v = .ok c' → (f ()).Leaves P c') :
    (Work.store name v >>= f).Leaves P c := by
  rw [leaves_store_bind]
  cases hs : Action.store c name v with
  | ok c' => exact h c' hs
  | error e => exact hfault e

end Work

theorem outcome_take (action : String) (success : Bool) (summary : String)
    (started : Instant) (details : Option String) :
    (Report.take action success summary started details).outcome =
      .ask .clock fun t =>
        .done (.ok { action, success, summary, details, time := Clock.elapsed started t }) :=
  rfl

/-- Where there is an outcome it settles the action. A fault finds the variables as they were, but
for that of a value that was stored and has no text. -/
def Keeps (name : String) (p : Entries) (c : Context) : Except Fault Outcome → Context → Prop
  | .ok o, c' => Settles name p c (o, c')
  | .error f, c' => c' = c ∨ name = "Faker.generate" ∧ ∃ v e, f = .unwritable e ∧
      store c (HttpCall.parameter p "variable") v = .ok c' ∧ v.excess? Value.nestingLimit = some e

theorem keeps_error {name : String} {p : Entries} {c : Context} (f : Fault) :
    Keeps name p c (.error f) c := .inl rfl

theorem failed_keeps (name summary : String) (started : Instant) (details : Option String)
    (p : Entries) (c : Context) :
    (Work.of (failed name summary started details)).Leaves (Keeps name p c) c := by
  rw [Work.leaves_of]
  intro t
  exact ⟨_, rfl, rfl, Clock.elapsed_atLeastZero started t, .unchanged⟩

theorem attemptHttp_gives (name : String) (client : Web.Client) (p : Entries) (started : Instant) :
    (attemptHttp name client p started).Gives fun o =>
      ∃ r, o.reports = [r] ∧ r.action = name ∧ r.time.AtLeastZero := by
  unfold attemptHttp
  dsimp only
  split
  · simp [Clock.elapsed_atLeastZero]
  · refine Attempt.gives_after _ fun sent => ?_
    split
    · simp [Clock.elapsed_atLeastZero]
    · simp
    · simp [Clock.elapsed_atLeastZero]

theorem attemptHttp_keeps (name : String) (client : Web.Client) (p q : Entries) (c : Context)
    (started : Instant) :
    (Work.of (attemptHttp name client p started)).Leaves (Keeps name q c) c := by
  rw [Work.leaves_of]
  refine (attemptHttp_gives name client p started).mono fun x hx => ?_
  cases x with
  | ok o =>
    obtain ⟨r, hr, hname, htime⟩ := hx o rfl
    exact ⟨r, hr, hname, htime, .unchanged⟩
  | error f => exact keeps_error f

theorem report_keeps {name : String} {p : Entries} {c c' : Context} {v : Value} {summary : String}
    {started : Instant} {response : Value}
    (stored : store c (HttpCall.parameter p "variable") v = .ok c') :
    (do
      let report ← Work.of (Report.take name true summary started)
      return { reports := [report], response } : Work Outcome).Leaves (Keeps name p c) c' := by
  rw [Work.leaves_bind, Work.leaves_of, outcome_take]
  intro t
  exact ⟨_, rfl, rfl, Clock.elapsed_atLeastZero started t, .stored stored rfl⟩

theorem attemptDatabase_keeps (d : Database.Dialect) (name : String) (p : Entries) (c : Context)
    (started : Instant) : (attemptDatabase d name p started).Leaves (Keeps name p c) c := by
  unfold attemptDatabase
  dsimp only
  split
  · exact failed_keeps name _ started none p c
  split
  · exact failed_keeps name _ started none p c
  refine Work.leaves_after _ keeps_error fun address => ?_
  refine Work.leaves_after _ keeps_error fun _ => ?_
  refine Work.leaves_after _ keeps_error fun result => ?_
  split
  · rw [Work.leaves_bind, Work.leaves_of]
    intro t
    refine Work.leaves_after _ keeps_error fun _ => ?_
    exact ⟨_, rfl, rfl, Clock.elapsed_atLeastZero started t, .unchanged⟩
  · refine Work.leaves_after _ keeps_error fun _ => ?_
    exact Work.leaves_throw.2 (keeps_error _)
  · refine Work.leaves_after _ keeps_error fun _ => ?_
    exact Work.leaves_store keeps_error fun c' stored => report_keeps stored

theorem attemptGenerate_keeps (ps : List Provider) (p : Entries) (c : Context) (started : Instant) :
    (attemptGenerate ps "Faker.generate" p started).Leaves (Keeps "Faker.generate" p c) c := by
  unfold attemptGenerate
  dsimp only
  split
  · exact failed_keeps _ _ started none p c
  split
  · exact failed_keeps _ _ started none p c
  refine Work.leaves_after _ keeps_error fun provider => ?_
  split
  · refine Work.leaves_after _ keeps_error fun _ => ?_
    exact failed_keeps _ _ started none p c
  refine Work.leaves_after _ keeps_error fun generator => ?_
  split
  · exact failed_keeps _ _ started none p c
  refine Work.leaves_after _ keeps_error fun value => ?_
  refine Work.leaves_store keeps_error fun c' stored => ?_
  refine Work.leaves_ofExcept.2 ?_
  unfold Value.formatted
  cases hexcess : value.excess? Value.nestingLimit with
  | some e => exact .inr ⟨rfl, value, e, rfl, stored, hexcess⟩
  | none => exact report_keeps stored

theorem work_keeps (e : Equipment) (a : Action) (c : Context) (started : Instant) :
    (a.work e started).Leaves (Keeps a.name a.parameters c) c := by
  cases a with
  | http n p => exact attemptHttp_keeps n e.client p p c started
  | database d p => exact attemptDatabase_keeps d _ p c started
  | generate p => exact attemptGenerate_keeps e.providers p c started

theorem http_work (e : Equipment) (n : String) (p : Entries) (c : Context) (started : Instant) :
    ((http n p).work e started).outcome c =
      (attemptHttp n e.client p started).outcome >>= fun x => .done (x, c) :=
  rfl

theorem undertake_settles {name : String} {p : Entries} {c : Context}
    {work : Instant → Work Outcome} (h : ∀ started, (work started).Leaves (Keeps name p c) c) :
    (undertake name work c).Yields (Settles name p c) := by
  simp only [undertake, Activity.yields_bind, Activity.yields_now]
  intro started
  refine (h started).mono fun x hx => ?_
  obtain ⟨x, c'⟩ := x
  cases x with
  | ok o =>
    have ho : o.reports.isEmpty = false := by
      obtain ⟨r, hr, -⟩ := hx
      rw [show o.reports = [r] from hr]
      rfl
    have hsettles : Settles name p c (o, c') := hx
    simpa [reported, ho] using hsettles
  | error f =>
    intro t
    refine ⟨_, rfl, rfl, Clock.elapsed_atLeastZero started t, ?_⟩
    rcases hx with rfl | ⟨hname, v, e, rfl, stored, hexcess⟩
    · exact .unchanged
    · exact .untold hname stored hexcess rfl (by cases e <;> rfl)

theorem run_settles (e : Equipment) (a : Action) (c : Context) :
    (a.run e c).Yields (Settles a.name a.parameters c) :=
  undertake_settles fun started => work_keeps e a c started

end Action
end TestWorker
