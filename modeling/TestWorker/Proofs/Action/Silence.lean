import TestWorker.Proofs.Action.Evaluation

namespace TestWorker

abbrev Activity.Silent {α : Type} (a : Activity α) : Prop :=
  a.Asks fun e => ∀ lines, e ≠ .print lines

theorem Activity.Silent.bind {α β : Type} {a : Activity α} {f : α → Activity β} (h : a.Silent)
    (hf : ∀ x, (f x).Silent) : (a >>= f).Silent :=
  asks_bind.2 ⟨h, yields_of_forall a hf⟩

theorem Activity.silent_now : now.Silent := ⟨nofun, fun _ => trivial⟩

theorem Activity.silent_since (started : Instant) : (since started).Silent :=
  ⟨nofun, fun _ => trivial⟩

namespace Attempt
variable {α β : Type}

abbrev Silent (t : Attempt α) : Prop := t.outcome.Silent

theorem silent_pure (a : α) : (pure a : Attempt α).Silent := trivial

theorem silent_throw (f : Fault) : (throw f : Attempt α).Silent := trivial

theorem silent_ofExcept (x : Except Fault α) : (ofExcept x).Silent := by
  rw [Silent, outcome_ofExcept]
  trivial

theorem silent_perform {e : Effect} (he : ∀ lines, e ≠ .print lines) : (perform e).Silent :=
  ⟨he, fun _ => trivial⟩

theorem Silent.lift {a : Activity α} (h : a.Silent) : (liftM a : Attempt α).Silent := by
  rw [Silent, outcome_liftM]
  exact h.bind fun _ => trivial

theorem Silent.bind {t : Attempt α} {f : α → Attempt β} (h : t.Silent) (hf : ∀ x, (f x).Silent) :
    (t >>= f).Silent := by
  rw [Silent, outcome_bind]
  refine Activity.Silent.bind h fun x => ?_
  cases x with
  | ok a => exact hf a
  | error f => trivial

end Attempt

namespace Web.Client
variable (c : Client)

theorem jar_silent : c.jar.Silent := by
  unfold jar
  split
  · exact Attempt.silent_perform nofun
  · exact Attempt.silent_pure _

theorem keep_silent (url : Url) (response : Response) : (c.keep url response).Silent := by
  unfold keep
  cases c.session with
  | none => exact Attempt.silent_pure _
  | some s =>
    cases response.headers.values "set-cookie" with
    | nil => exact Attempt.silent_pure _
    | cons line lines => exact Attempt.silent_perform nofun

theorem exchange_silent (r : Request) : (c.exchange r).Silent := by
  unfold exchange
  refine (Attempt.silent_perform (e := .exchange r) nofun).bind fun answer => ?_
  refine (Attempt.silent_ofExcept answer).bind fun response => ?_
  exact (c.keep_silent r.url response).bind fun _ => Attempt.silent_pure _

theorem follow_silent (left : Nat) (r : Request) : (c.follow left r).Silent := by
  induction left generalizing r with
  | zero => exact Attempt.silent_throw _
  | succ left ih =>
    rw [follow]
    refine (c.exchange_silent r).bind fun response => ?_
    split
    · exact Attempt.silent_pure _
    · refine c.jar_silent.bind fun jar => ?_
      refine (Attempt.silent_ofExcept _).bind fun next => ?_
      split
      · exact ih next
      · exact Attempt.silent_pure _

theorem send_silent (d : Draft) : (c.send d).Silent := by
  unfold send
  refine c.jar_silent.bind fun jar => ?_
  exact (Attempt.silent_ofExcept _).bind fun r => c.follow_silent _ r

end Web.Client

theorem Report.silent_take (action : String) (success : Bool) (summary : String) (started : Instant)
    (details : Option String) : (Report.take action success summary started details).Silent :=
  (Attempt.Silent.lift (Activity.silent_since started)).bind fun _ => Attempt.silent_pure _

namespace Action

theorem failed_silent (name summary : String) (started : Instant)
    (details : Option String) (response : Value) :
    (failed name summary started details response).Silent :=
  (Report.silent_take ..).bind fun _ => Attempt.silent_pure _

theorem attemptHttp_silent (name : String) (client : Web.Client) (p : Entries) (started : Instant) :
    (attemptHttp name client p started).Silent := by
  unfold attemptHttp
  dsimp only
  split
  · exact failed_silent ..
  · have hsend := (Attempt.silent_ofExcept (HttpCall.ofParameters p)).bind fun call =>
      client.send_silent (call.draft (HttpCall.parameter p "url"))
    refine (Attempt.Silent.lift hsend).bind fun sent => ?_
    split
    · exact failed_silent ..
    · exact Attempt.silent_throw _
    · refine (Attempt.silent_ofExcept _).bind fun payload => ?_
      exact (Report.silent_take ..).bind fun _ => Attempt.silent_pure _

theorem take_silent (s : Database.Step) : (take s).Silent :=
  (Attempt.silent_perform (e := .step s) nofun).bind Attempt.silent_ofExcept

theorem runStatement_silent (query parameters : Value) : (runStatement query parameters).Silent :=
  (Attempt.silent_ofExcept _).bind fun s =>
    (Attempt.silent_perform (e := .query s) nofun).bind Attempt.silent_ofExcept

theorem transaction_silent {α : Type} {body : Attempt α} (h : body.Silent) :
    (transaction body).Silent := by
  unfold transaction
  refine (take_silent .begin).bind fun _ => ?_
  refine (Attempt.Silent.lift h).bind fun result => ?_
  split
  · exact (take_silent .commit).bind fun _ => Attempt.silent_pure _
  · exact (take_silent .rollback).bind fun _ => Attempt.silent_throw _

/-- Work made of attempts that print nothing, and of writes. -/
inductive Work.Composed : {α : Type} → Work α → Prop
  | of {α : Type} {t : Attempt α} : t.Silent → Composed (Work.of t)
  | pure {α : Type} (a : α) : Composed (Pure.pure a : Work α)
  | throw {α : Type} (f : Fault) : Composed (MonadExcept.throw f : Work α)
  | store (name v : Value) : Composed (Work.store name v)
  | bind {α β : Type} {w : Work α} {f : α → Work β} :
      Composed w → (∀ a, Composed (f a)) → Composed (w >>= f)

theorem attemptDatabase_composed (d : Database.Dialect) (name : String)
    (p : Entries) (started : Instant) :
    (attemptDatabase d name p started).Composed := by
  unfold attemptDatabase
  dsimp only
  split
  · exact .of (failed_silent ..)
  split
  · exact .of (failed_silent ..)
  refine .bind (.of (Attempt.silent_ofExcept _)) fun address => ?_
  refine .bind (.of (take_silent _)) fun _ => ?_
  refine .bind (.of (Attempt.Silent.lift (transaction_silent (runStatement_silent _ _))))
    fun result => ?_
  split
  · refine .bind (.of (failed_silent ..)) fun o => ?_
    exact .bind (.of (take_silent .dispose)) fun _ => .pure o
  · exact .bind (.of (take_silent .dispose)) fun _ => .throw _
  · refine .bind (.of (take_silent .dispose)) fun _ => ?_
    refine .bind (.store _ _) fun _ => ?_
    exact .bind (.of (Report.silent_take ..)) fun _ => .pure _

theorem draw_silent (d : Draw) : (draw d).Silent :=
  (Attempt.silent_perform (e := .draw d) nofun).bind Attempt.silent_ofExcept

theorem attemptGenerate_composed (ps : List Provider) (name : String)
    (p : Entries) (started : Instant) :
    (attemptGenerate ps name p started).Composed := by
  unfold attemptGenerate
  dsimp only
  split
  · exact .of (failed_silent ..)
  split
  · exact .of (failed_silent ..)
  refine .bind (.of (Attempt.silent_ofExcept _)) fun provider => ?_
  split
  · exact .bind (.of (Attempt.silent_ofExcept _)) fun shown => .of (failed_silent ..)
  refine .bind (.of (Attempt.silent_ofExcept _)) fun generator => ?_
  split
  · exact .of (failed_silent ..)
  · refine .bind (.of (draw_silent _)) fun value => ?_
    refine .bind (.store _ _) fun _ => ?_
    refine .bind (.of (Attempt.silent_ofExcept _)) fun shown => ?_
    exact .bind (.of (Report.silent_take ..)) fun _ => .pure _

theorem work_composed (e : Equipment) (a : Action) (started : Instant) :
    (a.work e started).Composed := by
  cases a with
  | http n p => exact .of (attemptHttp_silent ..)
  | database d p => exact attemptDatabase_composed d _ p started
  | generate p => exact attemptGenerate_composed e.providers _ p started

theorem Work.Composed.silent {α : Type} {w : Work α} (h : w.Composed) (c : Context) :
    (w.outcome c).Silent := by
  induction h generalizing c with
  | of ht => exact Activity.Silent.bind ht fun _ => trivial
  | pure a => trivial
  | throw f => trivial
  | store name v =>
    rw [outcome_store]
    trivial
  | bind _ _ ihw ihf =>
    rw [outcome_bind]
    refine (ihw c).bind fun x => ?_
    obtain ⟨x, c⟩ := x
    cases x with
    | ok a => exact ihf a c
    | error f => trivial

theorem run_silent (e : Equipment) (a : Action) (c : Context) : (a.run e c).Silent := by
  unfold run undertake
  refine Activity.silent_now.bind fun started => ?_
  refine ((work_composed e a started).silent c).bind fun x => ?_
  obtain ⟨x, c⟩ := x
  cases x with
  | error f => exact (Activity.silent_since started).bind fun _ => trivial
  | ok o =>
    refine Activity.Silent.bind ?_ fun _ => trivial
    unfold reported
    split
    · exact (Activity.silent_since started).bind fun _ => trivial
    · trivial

end Action
end TestWorker
