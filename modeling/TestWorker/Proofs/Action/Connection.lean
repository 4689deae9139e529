import TestWorker.Proofs.Action.Evaluation
import TestWorker.Proofs.Context
import TestWorker.Rehearsal

namespace TestWorker

@[simp] theorem Except.isOk_ok {ε α : Type} (a : α) : (Except.ok a : Except ε α).isOk = true := rfl

@[simp] theorem Except.isOk_error {ε α : Type} (e : ε) :
    (Except.error e : Except ε α).isOk = false :=
  rfl

/-- An event of a connection, and whether the database carried it out. -/
structure Database.LogEntry where
  event : Database.Event
  done : Bool

open Database (LogEntry)

/-- What an effect leaves in the log. -/
def Effect.entry? : (e : Effect) → e.Reply → Option LogEntry
  | .step s, r => some ⟨.step s, Except.isOk r⟩
  | .query s, r => some ⟨.execute s, Except.isOk r⟩
  | _, _ => none

def databaseLog (ms : List Moment) : List LogEntry := ms.filterMap fun m => m.effect.entry? m.reply

/-- The step is in the log, and it was carried out. -/
def Database.carriedOut (s : Database.Step) (log : List LogEntry) : Bool :=
  log.any fun l => l.done && match l.event with
    | .step s' => s' == s
    | .execute _ => false

namespace Action
open HttpCall (parameter)
open Database (carriedOut)
variable {σ : Type}

@[simp] theorem take_logs {P : List LogEntry → Except Fault Unit → Prop} {s : Database.Step} :
    (take s).outcome.Logs Effect.entry? P ↔ ∀ r : Except Fault Unit, P [⟨.step s, r.isOk⟩] r := by
  rw [take, Attempt.outcome_bind, Attempt.outcome_perform]
  refine forall_congr' fun r => ?_
  cases r <;> exact Iff.rfl

/-- At most one statement is sent, and there is a result if it is answered. -/
inductive Executed : List LogEntry → Bool → Prop
  | refused : Executed [] false
  | sent (s : Database.Statement) (answered : Bool) : Executed [⟨.execute s, answered⟩] answered

theorem runStatement_logs (query parameters : Value) :
    (runStatement query parameters).outcome.Logs Effect.entry? fun log x =>
      Executed log x.isOk := by
  unfold runStatement
  cases Database.Statement.ofValue query parameters with
  | error f => exact .refused
  | ok s =>
    intro r
    change Except Fault Database.ResultSet at r
    cases r with
    | ok answer => exact .sent s true
    | error f => exact .sent s false

/-- A transaction that is opened is ended once, as its body decides. -/
inductive Transacted : List LogEntry → Bool → Prop
  | unopened : Transacted [⟨.step .begin, false⟩] false
  | ended {body : List LogEntry} {answered : Bool} (h : Executed body answered) (done : Bool) :
    Transacted
      (⟨.step .begin, true⟩ :: body ++ [⟨.step (if answered then .commit else .rollback), done⟩])
      (answered && done)

theorem transaction_logs {α : Type} {body : Attempt α}
    (h : body.outcome.Logs Effect.entry? fun log x => Executed log x.isOk) :
    (transaction body).outcome.Logs Effect.entry? fun log x => Transacted log x.isOk := by
  unfold transaction
  simp only [Attempt.outcome_bind, Activity.logs_bind, take_logs]
  intro opened
  cases opened with
  | error f => exact .unopened
  | ok _ =>
    simp only [Attempt.outcome_liftM, Activity.logs_bind, Activity.logs_done]
    refine h.mono fun log x hx => ?_
    cases x with
    | ok a =>
      simp only [Attempt.outcome_bind, Activity.logs_bind, take_logs]
      intro committed
      cases committed with
      | ok _ => simpa using Transacted.ended hx true
      | error f => simpa using Transacted.ended hx false
    | error f =>
      simp only [Attempt.outcome_bind, Activity.logs_bind, take_logs]
      intro undone
      cases undone with
      | ok _ => simpa using Transacted.ended hx true
      | error f => simpa using Transacted.ended hx false

/-- There is a query, and the connection that is given has the address. -/
structure Asked (d : Database.Dialect) (p : Entries) (a : Database.Address) : Prop where
  query : (parameter p "query").truthy = true
  connection : (parameter p "connection").truthy = true
  address : Database.Address.ofValue d.driver (parameter p "connection") = .ok a

theorem not_asked_iff {d : Database.Dialect} {p : Entries} : (∀ a, ¬Asked d p a) ↔
    (parameter p "query").truthy = false ∨ (parameter p "connection").truthy = false ∨
      ∃ f, Database.Address.ofValue d.driver (parameter p "connection") = .error f := by
  constructor
  · intro h
    cases hquery : (parameter p "query").truthy with
    | false => exact .inl rfl
    | true =>
      cases hconnection : (parameter p "connection").truthy with
      | false => exact .inr (.inl rfl)
      | true =>
        cases haddress : Database.Address.ofValue d.driver (parameter p "connection") with
        | error f => exact .inr (.inr ⟨f, rfl⟩)
        | ok a => exact absurd ⟨hquery, hconnection, haddress⟩ (h a)
  · rintro h a ⟨hquery, hconnection, haddress⟩
    simp [hquery, hconnection, haddress] at h

/-- The log of one evaluation, and whether it succeeds. -/
inductive Course (d : Database.Dialect) (p : Entries) : List LogEntry → Bool → Prop
  | unasked (h : ∀ a, ¬Asked d p a) : Course d p [] false
  | unconnected {a : Database.Address} (h : Asked d p a) :
    Course d p [⟨.step (.connect a.text), false⟩] false
  | closed {a : Database.Address} {middle : List LogEntry} {committed : Bool} (h : Asked d p a)
      (ht : Transacted middle committed) (disposed : Bool) :
    Course d p (⟨.step (.connect a.text), true⟩ :: middle ++ [⟨.step .dispose, disposed⟩])
      (committed && disposed && storable (parameter p "variable"))

def succeeds : Except Fault Outcome → Bool
  | .ok o => !o.reports.isEmpty && o.success
  | .error _ => false

theorem isOk_store (c : Context) (name value : Value) :
    (store c name value).isOk = storable name := by
  unfold store storable Context.set
  cases name.truthy with
  | false => rfl
  | true => cases name.unhashable? <;> rfl

theorem failed_logs {name summary : String} {started : Instant} {details : Option String}
    {c : Context} {P : List LogEntry → Except Fault Outcome × Context → Prop}
    (h : ∀ o : Outcome, succeeds (.ok o) = false → P [] (.ok o, c)) :
    ((Work.of (failed name summary started details)).outcome c).Logs Effect.entry? P :=
  fun _ => h _ rfl

theorem take_bind_logs {α : Type} {s : Database.Step} {f : Unit → Work α} {c : Context}
    {P : List LogEntry → Except Fault α × Context → Prop}
    (hfault : ∀ fault, P [⟨.step s, false⟩] (.error fault, c))
    (h : ((f ()).outcome c).Logs Effect.entry? fun log x => P (⟨.step s, true⟩ :: log) x) :
    ((Work.of (take s) >>= f).outcome c).Logs Effect.entry? P := by
  rw [Work.outcome_bind, Activity.logs_bind]
  rw [Work.of_outcome, Activity.logs_bind, take_logs]
  intro r
  cases r with
  | ok _ => exact h
  | error fault => exact hfault fault

theorem outcome_bind_logs {α β : Type} {t : Attempt α} {f : Except Fault α → Work β}
    {c : Context} {P : List LogEntry → Except Fault β × Context → Prop} :
    ((Work.of (liftM t.outcome) >>= f).outcome c).Logs Effect.entry? P ↔
      t.outcome.Logs Effect.entry? fun log x =>
        ((f x).outcome c).Logs Effect.entry? fun log' y => P (log ++ log') y := by
  have hof : (Work.of (liftM t.outcome)).outcome c = t.outcome >>= fun x => .done (.ok x, c) := by
    rw [Work.of_outcome, Attempt.outcome_liftM, Activity.bind_assoc]
    rfl
  rw [Work.outcome_bind, hof, Activity.bind_assoc, Activity.logs_bind]
  exact Iff.rfl

/-- The write may fail after everything else is over. -/
theorem store_logs {p : Entries} {c : Context} {v response : Value} {name summary : String}
    {started : Instant} {P : List LogEntry → Except Fault Outcome × Context → Prop}
    (h : ∀ x, succeeds x.1 = storable (parameter p "variable") → P [] x) :
    ((do
      Work.store (parameter p "variable") v
      let report ← Work.of (Report.take name true summary started)
      return { reports := [report], response } : Work Outcome).outcome c).Logs Effect.entry? P := by
  have hstore := isOk_store c (parameter p "variable") v
  rw [Work.outcome_store_bind]
  cases hs : store c (parameter p "variable") v with
  | ok c' =>
    rw [hs] at hstore
    intro t
    exact h _ hstore
  | error f =>
    rw [hs] at hstore
    exact h _ hstore

theorem attemptDatabase_logs (d : Database.Dialect) (name : String)
    (p : Entries) (c : Context) (started : Instant) :
    ((attemptDatabase d name p started).outcome c).Logs Effect.entry? fun log x =>
      Course d p log (succeeds x.1) := by
  unfold attemptDatabase
  dsimp only
  split
  · next hquery =>
    refine failed_logs fun o ho => ?_
    rw [ho]
    exact .unasked fun a ha => by simp [ha.query] at hquery
  next hquery =>
  split
  · next hconnection =>
    refine failed_logs fun o ho => ?_
    rw [ho]
    exact .unasked fun a ha => by simp [ha.connection] at hconnection
  next hconnection =>
  cases haddress : Database.Address.ofValue d.driver (parameter p "connection") with
  | error f => exact .unasked fun a ha => by simp [ha.address] at haddress
  | ok a =>
  have hasked : Asked d p a := ⟨by simpa using hquery, by simpa using hconnection, haddress⟩
  refine take_bind_logs (fun _ => .unconnected hasked) ?_
  refine outcome_bind_logs.2
    ((transaction_logs (runStatement_logs _ _)).mono fun middle x hmiddle => ?_)
  have hclosed := Course.closed hasked hmiddle
  split
  · rw [Work.outcome_bind, Activity.logs_bind]
    refine failed_logs fun o ho => ?_
    refine take_bind_logs (fun _ => ?_) ?_
    · simpa [succeeds] using hclosed false
    · simpa [ho] using hclosed true
  · refine take_bind_logs (fun _ => ?_) ?_
    · simpa [succeeds] using hclosed false
    · simpa [succeeds] using hclosed true
  · refine take_bind_logs (fun _ => ?_) ?_
    · simpa [succeeds] using hclosed false
    · refine store_logs fun x hx => ?_
      simpa [hx] using hclosed true

theorem undertake_logs {name : String} {c : Context} {work : Instant → Work Outcome}
    {Q : List LogEntry → Bool → Prop}
    (h : ∀ started, ((work started).outcome c).Logs Effect.entry? fun log x =>
      Q log (succeeds x.1)) :
    (undertake name work c).Logs Effect.entry? fun log x => Q log x.1.success := by
  unfold undertake
  rw [Activity.logs_bind, Activity.logs_now fun _ => rfl]
  intro started
  rw [Activity.logs_bind]
  refine (h started).mono fun log x hx => ?_
  obtain ⟨x, c'⟩ := x
  cases x with
  | error f =>
    rw [Activity.logs_bind, Activity.logs_since fun _ => rfl]
    simpa [Outcome.success, succeeds] using hx
  | ok o =>
    rw [Activity.logs_bind, reported]
    cases hr : o.reports.isEmpty with
    | true =>
      rw [if_pos rfl, Activity.logs_bind, Activity.logs_since fun _ => rfl]
      simpa [Outcome.success, succeeds, hr] using hx
    | false => simpa [succeeds, hr] using hx

theorem database_course (d : Database.Dialect) (p : Entries) (e : Equipment) (c : Context)
    (o : Outside σ) (now : Instant) (s : σ) :
    Course d p (databaseLog (((database d p).run e c).trace o now s))
      (((database d p).run e c).run o now s).1.1.success := by
  have h : ((database d p).run e c).Logs Effect.entry? fun log x => Course d p log x.1.success :=
    undertake_logs fun started => attemptDatabase_logs d _ p c started
  exact h.run o now s

/-- Whatever the parameters, the variables and the answers of the database are: a database is asked
for something exactly if there are a query and a connection with an address. Then the connection is
disposed of as the last thing, and a transaction that was opened is committed or rolled back before.
Where the connection cannot even be made, nothing follows. -/
theorem connection_disposed (d : Database.Dialect) (p : Entries) (e : Equipment) (c : Context)
    (o : Outside σ) (now : Instant) (s : σ) :
    (databaseLog (((database d p).run e c).trace o now s) = [] ↔
      (parameter p "query").truthy = false ∨ (parameter p "connection").truthy = false ∨
        ∃ f, Database.Address.ofValue d.driver (parameter p "connection") = .error f) ∧
    (databaseLog (((database d p).run e c).trace o now s) ≠ [] →
      ∃ a, Database.Address.ofValue d.driver (parameter p "connection") = .ok a ∧
        (databaseLog (((database d p).run e c).trace o now s) = [⟨.step (.connect a.text), false⟩] ∨
          ∃ middle committed disposed, Transacted middle committed ∧
            databaseLog (((database d p).run e c).trace o now s) =
              ⟨.step (.connect a.text), true⟩ :: middle ++ [⟨.step .dispose, disposed⟩])) := by
  obtain ⟨success, hcourse⟩ :
      ∃ success, Course d p (databaseLog (((database d p).run e c).trace o now s)) success :=
    ⟨_, database_course d p e c o now s⟩
  generalize databaseLog (((database d p).run e c).trace o now s) = log at hcourse ⊢
  rw [← not_asked_iff]
  cases hcourse with
  | unasked h => exact ⟨iff_of_true rfl h, fun hlog => absurd rfl hlog⟩
  | unconnected h =>
    exact ⟨iff_of_false (by simp) fun hasked => hasked _ h, fun _ => ⟨_, h.address, .inl rfl⟩⟩
  | closed h ht disposed =>
    exact ⟨iff_of_false (by simp) fun hasked => hasked _ h,
      fun _ => ⟨_, h.address, .inr ⟨_, _, disposed, ht, rfl⟩⟩⟩

@[simp] theorem carriedOut_nil {s : Database.Step} : carriedOut s [] = false := rfl

@[simp] theorem carriedOut_cons {s s' : Database.Step} {done : Bool} {log : List LogEntry} :
    carriedOut s (⟨.step s', done⟩ :: log) = (done && s' == s || carriedOut s log) := rfl

@[simp] theorem carriedOut_append {s : Database.Step} {log log' : List LogEntry} :
    carriedOut s (log ++ log') = (carriedOut s log || carriedOut s log') := List.any_append

theorem Executed.carriedOut {log : List LogEntry} {answered : Bool} (h : Executed log answered)
    (s : Database.Step) : carriedOut s log = false := by
  cases h <;> simp [Database.carriedOut]

theorem Transacted.carriedOut {log : List LogEntry} {committed : Bool}
    (h : Transacted log committed) :
    carriedOut .commit log = committed ∧ carriedOut .dispose log = false := by
  cases h with
  | unopened => exact ⟨rfl, rfl⟩
  | @ended body answered h done =>
    cases answered <;> cases done <;> simp [h.carriedOut]

theorem Course.success_iff {d : Database.Dialect} {p : Entries}
    {log : List LogEntry} {success : Bool} (h : Course d p log success) : success = true ↔
      carriedOut .commit log = true ∧ carriedOut .dispose log = true ∧
        storable (parameter p "variable") = true := by
  cases h with
  | unasked h => simp [Database.carriedOut]
  | unconnected h => simp [Database.carriedOut]
  | closed h ht disposed =>
    obtain ⟨hcommit, hdispose⟩ := ht.carriedOut
    simp [hcommit, hdispose, and_assoc]

/-- A database action makes one report. It tells of a success exactly if the transaction was
committed and the connection was disposed of, and the rows could be stored under `variable`. -/
theorem database_success_iff (d : Database.Dialect) (p : Entries) (e : Equipment) (c : Context)
    (o : Outside σ) (now : Instant) (s : σ) :
    ∃ r, (((database d p).run e c).run o now s).1.1.reports = [r] ∧ (r.success = true ↔
      carriedOut .commit (databaseLog (((database d p).run e c).trace o now s)) = true ∧
      carriedOut .dispose (databaseLog (((database d p).run e c).trace o now s)) = true ∧
      storable (parameter p "variable") = true) := by
  obtain ⟨r, hr, -⟩ := (run_settles e (database d p) c).run o now s
  have hcourse := database_course d p e c o now s
  have hsuccess : (((database d p).run e c).run o now s).1.1.success = r.success := by
    simp [Outcome.success, hr]
  rw [hsuccess] at hcourse
  exact ⟨r, hr, hcourse.success_iff⟩

def rowsUnderList : Entries := [
  ("dialect", .text "sqlite"), ("connection", .text "sqlite+aiosqlite:///x.db"),
  ("query", .text "delete from t"), ("variable", .list [.text "rows"])]

def oneRowDeleted : Rehearsal := { script.results := [{ result := .ok { rowCount := .int 1 } }] }

/-- The transaction is committed and the one report tells of a failure. -/
theorem committed_but_failed :
    carriedOut .commit (databaseLog (((database .sqlite rowsUnderList).run
      ⟨⟨some .targets, false⟩, []⟩ ⟨[]⟩).trace Rehearsal.outside 0 oneRowDeleted)) = true ∧
    (((database .sqlite rowsUnderList).run
      ⟨⟨some .targets, false⟩, []⟩ ⟨[]⟩).run Rehearsal.outside 0 oneRowDeleted).1.1.reports.map
        (fun r => (r.success, r.summary)) = [(false, "TypeError: unhashable type: 'list'")] := by
  decide +kernel

end Action
end TestWorker
