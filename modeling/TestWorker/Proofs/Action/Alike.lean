import TestWorker.Proofs.Action.Evaluation
import TestWorker.Proofs.Activity.Alike

namespace TestWorker

namespace Web
variable {i j : Jar}

theorem withCookies_congr (h : i.Agrees j) (u : Url) (hs : Headers) :
    withCookies i u hs = withCookies j u hs := by
  rw [withCookies, withCookies, h u]

theorem Draft.request_congr (h : i.Agrees j) (d : Draft) : d.request i = d.request j := by
  unfold Draft.request
  simp only [withCookies_congr h]

theorem Request.redirected_congr (h : i.Agrees j) (r : Request) (status : Nat) (location : String) :
    r.redirected status location i = r.redirected status location j := by
  unfold Request.redirected
  simp only [withCookies_congr h]

namespace Client
variable {c : Client}

theorem jar_alike (k : Clocks) (hc : c.session ≠ some .coordinator) :
    Attempt.Alike k Jar.Agrees c.jar c.jar := by
  unfold jar
  split
  · next s hs =>
    cases s with
    | targets => exact .cookies fun i j h => .done h
    | coordinator => exact absurd hs hc
  · exact .pure fun _ => rfl

theorem keep_alike (k : Clocks) (c : Client) (u : Url) (r : Response) :
    Attempt.Alike k Eq (c.keep u r) (c.keep u r) := by
  apply Attempt.alike_refl
  unfold keep
  cases c.session with
  | none => trivial
  | some s =>
    cases r.headers.values "set-cookie" with
    | nil => trivial
    | cons line lines => exact ⟨trivial, fun _ => trivial⟩

theorem exchange_alike (k : Clocks) (c : Client) (r : Request) :
    Attempt.Alike k Eq (c.exchange r) (c.exchange r) := by
  unfold exchange
  refine (Attempt.alike_perform k (e := .exchange r) trivial).bind_eq fun answer => ?_
  refine (Attempt.alike_ofExcept k answer).bind_eq fun response => ?_
  exact (keep_alike k c r.url response).bind_eq fun _ => .pure rfl

theorem follow_alike (k : Clocks) (hc : c.session ≠ some .coordinator) (left : Nat) (r : Request) :
    Attempt.Alike k Eq (c.follow left r) (c.follow left r) := by
  induction left generalizing r with
  | zero => exact Attempt.alike_throw _
  | succ left ih =>
    rw [follow]
    refine (exchange_alike k c r).bind_eq fun response => ?_
    cases response.location? with
    | none => exact .pure rfl
    | some location =>
      refine (jar_alike k hc).bind fun i j hij => ?_
      rw [Request.redirected_congr hij]
      refine (Attempt.alike_ofExcept k _).bind_eq fun next => ?_
      cases c.follows with
      | true => exact ih next
      | false => exact .pure rfl

theorem send_alike (k : Clocks) (hc : c.session ≠ some .coordinator) (d : Draft) :
    Attempt.Alike k Eq (c.send d) (c.send d) := by
  unfold send
  refine (jar_alike k hc).bind fun i j hij => ?_
  rw [Draft.request_congr hij]
  exact (Attempt.alike_ofExcept k _).bind_eq fun r => follow_alike k hc _ r

end Client
end Web

/-- Reports that differ in their times alone, and not where the clocks go side by side. -/
structure Report.Alike (k : Clocks) (r r' : Report) : Prop where
  action : r.action = r'.action
  success : r.success = r'.success
  summary : r.summary = r'.summary
  details : r.details = r'.details
  time : k.timed → r.time = r'.time

/-- Outcomes whose reports differ in their times alone. -/
structure Outcome.Alike (k : Clocks) (o o' : Outcome) : Prop where
  reports : List.Forall₂ (Report.Alike k) o.reports o'.reports
  response : o.response = o'.response

theorem Outcome.Alike.success {k : Clocks} {o o' : Outcome} (h : o.Alike k o') :
    o.success = o'.success := by
  have hreports := h.reports
  unfold Outcome.success
  generalize o.reports = rs at hreports
  generalize o'.reports = rs' at hreports
  induction hreports with
  | nil => rfl
  | cons hr _ ih => rw [List.all_cons, List.all_cons, hr.success, ih]

theorem Report.Alike.eq {k : Clocks} {r r' : Report} (h : r.Alike k r') (htimed : k.timed) :
    r = r' := by
  obtain ⟨haction, hsuccess, hsummary, hdetails, htime⟩ := h
  cases r
  cases r'
  simp only at haction hsuccess hsummary hdetails htime
  rw [haction, hsuccess, hsummary, hdetails, htime htimed]

theorem Outcome.Alike.eq {k : Clocks} {o o' : Outcome} (h : o.Alike k o') (htimed : k.timed) :
    o = o' := by
  have hreports : o.reports = o'.reports :=
    List.forall₂_eq_eq_eq ▸ h.reports.imp fun _ _ hr => hr.eq htimed
  cases o
  cases o'
  simp only [Outcome.mk.injEq]
  exact ⟨hreports, h.response⟩

namespace Action
variable {k : Clocks} {s t : Instant}

theorem report_alike (name : String) (success : Bool) (summary : String)
    (details : Option String) (h : k.Agree s t) :
    Attempt.Alike k (Report.Alike k) (Report.take name success summary s details)
      (Report.take name success summary t details) :=
  .clock fun _ _ h' => .done ⟨rfl, rfl, rfl, rfl, h.elapsed h'⟩

theorem alike_of_reports {r r' : Report} (h : r.Alike k r') (response : Value) :
    Outcome.Alike k { reports := [r], response } { reports := [r'], response } :=
  ⟨.cons h .nil, rfl⟩

theorem failed_alike (name summary : String) (details : Option String)
    (response : Value) (h : k.Agree s t) :
    Attempt.Alike k (Outcome.Alike k) (failed name summary s details response)
      (failed name summary t details response) := by
  unfold failed
  exact (report_alike name false summary details h).bind fun _ _ hr =>
    .pure (alike_of_reports hr response)

namespace Work
variable {α β γ δ : Type} {R : α → β → Prop}

def Alike (k : Clocks) (R : α → β → Prop) (v : Work α) (w : Work β) : Prop :=
  ∀ c, Activity.Alike k (fun x y => ExceptAlike R x.1 y.1 ∧ x.2 = y.2) (v.outcome c) (w.outcome c)

theorem Alike.pure {x : α} {y : β} (h : R x y) : Alike k R (Pure.pure x) (Pure.pure y) :=
  fun _ => .done ⟨h, rfl⟩

theorem alike_throw (f : Fault) : Alike k R (throw f) (throw f) := fun _ => .done ⟨rfl, rfl⟩

theorem Alike.of {v : Attempt α} {w : Attempt β} (h : Attempt.Alike k R v w) :
    Alike k R (Work.of v) (Work.of w) :=
  fun _ => Activity.Alike.bind h fun _ _ hxy => .done ⟨hxy, rfl⟩

theorem Alike.bind {S : γ → δ → Prop} {v : Work α} {w : Work β} {f : α → Work γ}
    {g : β → Work δ} (h : Alike k R v w) (hfg : ∀ x y, R x y → Alike k S (f x) (g y)) :
    Alike k S (v >>= f) (w >>= g) := by
  intro c
  rw [outcome_bind, outcome_bind]
  refine (h c).bind ?_
  rintro ⟨x, c⟩ ⟨y, _⟩ ⟨hxy, rfl⟩
  cases x <;> cases y
  · obtain rfl : _ = _ := hxy
    exact .done ⟨rfl, rfl⟩
  · exact hxy.elim
  · exact hxy.elim
  · exact hfg _ _ hxy c

theorem Alike.bind_eq {S : γ → δ → Prop} {v w : Work α} {f : α → Work γ} {g : α → Work δ}
    (h : Alike k Eq v w) (hfg : ∀ x, Alike k S (f x) (g x)) : Alike k S (v >>= f) (w >>= g) :=
  h.bind fun x _ hxy => hxy ▸ hfg x

theorem store_alike (k : Clocks) (name v : Value) :
    Alike k Eq (Work.store name v) (Work.store name v) := by
  intro c
  rw [outcome_store]
  exact .done ⟨exceptAlike_refl _, rfl⟩

end Work

theorem success_alike (name summary : String) (response : Value) (h : k.Agree s t) :
    Work.Alike k (Outcome.Alike k)
      (do
        let report ← Work.of (Report.take name true summary s)
        return { reports := [report], response })
      (do
        let report ← Work.of (Report.take name true summary t)
        return { reports := [report], response }) := by
  exact (Work.Alike.of (report_alike name true summary none h)).bind fun _ _ hr =>
    .pure (alike_of_reports hr response)

theorem attemptHttp_alike {client : Web.Client} (hclient : client.session ≠ some .coordinator)
    (name : String) (p : Entries) (h : k.Agree s t) :
    Attempt.Alike k (Outcome.Alike k) (attemptHttp name client p s)
      (attemptHttp name client p t) := by
  unfold attemptHttp
  dsimp only
  split
  · exact failed_alike name _ none .null h
  · have hsend : Attempt.Alike k Eq
        (do
          let call ← Attempt.ofExcept (HttpCall.ofParameters p)
          client.send (call.draft (HttpCall.parameter p "url")))
        (do
          let call ← Attempt.ofExcept (HttpCall.ofParameters p)
          client.send (call.draft (HttpCall.parameter p "url"))) :=
      (Attempt.alike_ofExcept k _).bind_eq fun call => Web.Client.send_alike k hclient _
    refine (Attempt.Alike.lift (hsend.mono fun _ _ => eq_of_exceptAlike)).bind_eq fun sent => ?_
    split
    · exact failed_alike name _ _ .null h
    · exact Attempt.alike_throw _
    · refine (Attempt.alike_ofExcept k _).bind_eq fun payload => ?_
      exact (report_alike name _ _ none h).bind fun _ _ hr => .pure (alike_of_reports hr _)

theorem take_alike (k : Clocks) (s : Database.Step) : Attempt.Alike k Eq (take s) (take s) := by
  unfold take
  exact (Attempt.alike_perform k (e := .step s) trivial).bind_eq fun r => Attempt.alike_ofExcept k r

theorem runStatement_alike (k : Clocks) (query parameters : Value) :
    Attempt.Alike k Eq (runStatement query parameters) (runStatement query parameters) := by
  unfold runStatement
  refine (Attempt.alike_ofExcept k _).bind_eq fun q => ?_
  exact (Attempt.alike_perform k (e := .query q) trivial).bind_eq fun r =>
    Attempt.alike_ofExcept k r

theorem transaction_alike {k : Clocks} {α : Type} {body : Attempt α}
    (h : Attempt.Alike k Eq body body) :
    Attempt.Alike k Eq (transaction body) (transaction body) := by
  unfold transaction
  refine (take_alike k .begin).bind_eq fun _ => ?_
  refine (Attempt.Alike.lift (h.mono fun _ _ => eq_of_exceptAlike)).bind_eq fun result => ?_
  cases result with
  | ok a => exact (take_alike k .commit).bind_eq fun _ => .pure rfl
  | error f => exact (take_alike k .rollback).bind_eq fun _ => Attempt.alike_throw f

theorem attemptDatabase_alike (d : Database.Dialect) (name : String)
    (p : Entries) (h : k.Agree s t) :
    Work.Alike k (Outcome.Alike k) (attemptDatabase d name p s) (attemptDatabase d name p t) := by
  have hdispose {β γ : Type} {R : β → γ → Prop} {f : Unit → Work β} {g : Unit → Work γ}
      (hfg : ∀ x, Work.Alike k R (f x) (g x)) :
      Work.Alike k R (Work.of (take .dispose) >>= f) (Work.of (take .dispose) >>= g) :=
    (Work.Alike.of (take_alike k .dispose)).bind_eq hfg
  unfold attemptDatabase
  dsimp only
  split
  · exact .of (failed_alike name _ none .null h)
  split
  · exact .of (failed_alike name _ none .null h)
  refine (Work.Alike.of (Attempt.alike_ofExcept k _)).bind_eq fun address => ?_
  refine (Work.Alike.of (take_alike k _)).bind_eq fun _ => ?_
  have htransaction := transaction_alike (runStatement_alike k (HttpCall.parameter p "query")
    (if (HttpCall.parameter p "params").truthy then HttpCall.parameter p "params" else .object []))
  refine (Work.Alike.of
    (Attempt.Alike.lift (htransaction.mono fun _ _ => eq_of_exceptAlike))).bind_eq
    fun result => ?_
  split
  · refine (Work.Alike.of (failed_alike name _ _ .null h)).bind fun _ _ ho => ?_
    exact hdispose fun _ => .pure ho
  · exact hdispose fun _ => Work.alike_throw _
  · exact hdispose fun _ => (Work.store_alike k _ _).bind_eq fun _ => success_alike name _ _ h

theorem draw_alike (k : Clocks) (d : Draw) : Attempt.Alike k Eq (draw d) (draw d) := by
  unfold draw
  exact (Attempt.alike_perform k (e := .draw d) trivial).bind_eq fun r => Attempt.alike_ofExcept k r

theorem attemptGenerate_alike (ps : List Provider) (name : String) (p : Entries) (h : k.Agree s t) :
    Work.Alike k (Outcome.Alike k) (attemptGenerate ps name p s) (attemptGenerate ps name p t) := by
  unfold attemptGenerate
  dsimp only
  split
  · exact .of (failed_alike name _ none .null h)
  split
  · exact .of (failed_alike name _ none .null h)
  refine (Work.Alike.of (Attempt.alike_ofExcept k _)).bind_eq fun provider => ?_
  split
  · refine (Work.Alike.of (Attempt.alike_ofExcept k _)).bind_eq fun shown => ?_
    exact .of (failed_alike name _ none .null h)
  refine (Work.Alike.of (Attempt.alike_ofExcept k _)).bind_eq fun generator => ?_
  split
  · exact .of (failed_alike name _ none .null h)
  · refine (Work.Alike.of (draw_alike k _)).bind_eq fun value => ?_
    refine (Work.store_alike k _ value).bind_eq fun _ => ?_
    refine (Work.Alike.of (Attempt.alike_ofExcept k _)).bind_eq fun shown => ?_
    exact success_alike name _ .null h

theorem work_alike {e : Equipment} (hclient : e.client.session ≠ some .coordinator) (a : Action)
    (h : k.Agree s t) : Work.Alike k (Outcome.Alike k) (a.work e s) (a.work e t) := by
  cases a with
  | http n p => exact .of (attemptHttp_alike hclient n p h)
  | database d p => exact attemptDatabase_alike d _ p h
  | generate p => exact attemptGenerate_alike e.providers _ p h

abbrev Alike (k : Clocks) (x y : Outcome × Context) : Prop := x.1.Alike k y.1 ∧ x.2 = y.2

theorem reported_alike (name : String) {o o' : Outcome} (ho : o.Alike k o') (h : k.Agree s t) :
    Activity.Alike k (Outcome.Alike k) (reported name s o) (reported name t o') := by
  have hempty : o.reports.isEmpty = o'.reports.isEmpty := by
    have hreports := ho.reports
    generalize o.reports = rs at hreports
    generalize o'.reports = rs' at hreports
    cases hreports <;> rfl
  unfold reported
  rw [hempty]
  split
  · refine (Activity.alike_since h).bind fun _ _ htime => .done (alike_of_reports ?_ .null)
    exact ⟨rfl, rfl, rfl, rfl, htime⟩
  · exact .done ho

theorem run_alike (k : Clocks) {e : Equipment} (hclient : e.client.session ≠ some .coordinator)
    (a : Action) (c : Context) : Activity.Alike k (Alike k) (a.run e c) (a.run e c) := by
  unfold run undertake
  refine Activity.alike_now.bind fun s t h => ?_
  refine (work_alike hclient a h c).bind ?_
  rintro ⟨x, c⟩ ⟨y, _⟩ ⟨hxy, rfl⟩
  cases x <;> cases y
  · obtain rfl : _ = _ := hxy
    refine (Activity.alike_since h).bind fun _ _ htime => .done ⟨alike_of_reports ?_ .null, rfl⟩
    exact ⟨rfl, rfl, rfl, rfl, htime⟩
  · exact hxy.elim
  · exact hxy.elim
  · exact (reported_alike a.name hxy h).bind fun _ _ ho => .done ⟨ho, rfl⟩

end Action
end TestWorker
