import TestWorker.Proofs.Action.Generate

namespace TestWorker.Action
open HttpCall (parameter)

/-- The one call is of the generator that the parameters name, and gave the value. -/
def Generated (ps : List Provider) (p : Entries)
    (drawn : List (Draw × Except Fault Value)) (v : Value) : Prop :=
  ∃ d, Called ps p d ∧ drawn = [(d, .ok v)]

/-- The rows, as the outcome of a query shows them. -/
def Queried (v response : Value) : Prop :=
  ∃ answer : Database.ResultSet, v = .list answer.objects ∧
    response = .object [("data", .list answer.objects), ("rowCount", answer.rowCount)]

/-- A success stores a value with the property, and no more. -/
def Storing (p : Entries) (c : Context) (Q : Value → Outcome → Prop)
    (x : Except Fault Outcome) (c' : Context) : Prop :=
  ∀ o, x = .ok o → o.success = true → ∃ v, Q v o ∧ store c (parameter p "variable") v = .ok c'

section
variable {p : Entries} {c c' : Context} {Q : Value → Outcome → Prop}

theorem storing_error (f : Fault) : Storing p c Q (.error f) c' := by
  intro o h
  cases h

theorem failed_storing (name summary : String) (started : Instant) (details : Option String) :
    (Work.of (failed name summary started details)).Leaves (Storing p c Q) c' := by
  rw [Work.leaves_of]
  intro t o ho hsuccess
  cases ho
  cases hsuccess

theorem store_storing {v : Value} {name summary : String} {started : Instant} {response : Value}
    (h : ∀ o, o.response = response → Q v o) :
    (do
      Work.store (parameter p "variable") v
      let report ← Work.of (Report.take name true summary started)
      return { reports := [report], response } : Work Outcome).Leaves (Storing p c Q) c := by
  refine Work.leaves_store storing_error fun c' stored => ?_
  rw [Work.leaves_bind, Work.leaves_of, outcome_take]
  intro t o ho _
  cases ho
  exact ⟨v, h _ rfl, stored⟩

end

theorem attemptDatabase_storing (d : Database.Dialect) (name : String) (p : Entries) (c : Context)
    (started : Instant) :
    (attemptDatabase d name p started).Leaves (Storing p c fun v o => Queried v o.response) c := by
  unfold attemptDatabase
  dsimp only
  split
  · exact failed_storing name _ started none
  split
  · exact failed_storing name _ started none
  refine Work.leaves_after _ storing_error fun address => ?_
  refine Work.leaves_after _ storing_error fun _ => ?_
  refine Work.leaves_after _ storing_error fun result => ?_
  split
  -- a query that the database refuses has a report of its own, and is no success
  · rw [Work.leaves_bind, Work.leaves_of]
    intro t
    refine Work.leaves_after _ storing_error fun _ => ?_
    intro o ho hsuccess
    cases ho
    cases hsuccess
  · refine Work.leaves_after _ storing_error fun _ => ?_
    exact Work.leaves_throw.2 (storing_error _)
  · next answer =>
    refine Work.leaves_after _ storing_error fun _ => ?_
    exact store_storing fun o ho => ⟨answer, rfl, ho⟩

theorem undertake_storing {name : String} {p : Entries} {c : Context} {Q : Value → Outcome → Prop}
    {work : Instant → Work Outcome} (h : ∀ started, (work started).Leaves (Storing p c Q) c) :
    (undertake name work c).Yields fun x => x.1.success = true →
      ∃ v, Q v x.1 ∧ store c (parameter p "variable") v = .ok x.2 := by
  simp only [undertake, Activity.yields_bind, Activity.yields_now]
  intro started
  refine (h started).mono fun x hx => ?_
  obtain ⟨x, c'⟩ := x
  cases x with
  | ok o =>
    simp only [Activity.yields_bind]
    unfold reported
    split
    · intro t hsuccess
      cases hsuccess
    · intro hsuccess
      exact hx o rfl hsuccess
  | error f =>
    intro t hsuccess
    cases hsuccess

theorem Judged.stored {ps : List Provider} {p : Entries} {c c' : Context}
    {drawn : List (Draw × Except Fault Value)} {success : Bool}
    {summary : String} (h : Judged ps p c drawn success summary c') {d : Draw}
    {v : Value} (hdrawn : drawn = [(d, .ok v)]) (hname : storable (parameter p "variable") = true) :
    store c (parameter p "variable") v = .ok c' :=
  store_eq_ok_iff.2 ⟨hname, (h.kept d v hdrawn hname).put⟩

theorem generate_stores (e : Equipment) (p : Entries) (c : Context) :
    ((generate p).run e c).Logs Effect.drawn? fun log x => x.1.success = true →
      ∃ v, Generated e.providers p log v ∧ store c (parameter p "variable") v = .ok x.2 := by
  refine (generate_comes e p c).mono fun log x hx hsuccess => ?_
  obtain ⟨r, hr, -, hjudged⟩ := hx
  have hr' : r.success = true := by simpa [Outcome.success, hr] using hsuccess
  obtain ⟨d, v, hcalled, hdrawn, hname, -⟩ := hjudged.succeeds.1 hr'
  exact ⟨v, ⟨d, hcalled, hdrawn⟩, hjudged.stored hdrawn hname⟩

theorem database_stores (e : Equipment) (d : Database.Dialect) (p : Entries) (c : Context) :
    ((database d p).run e c).Yields fun x => x.1.success = true →
      ∃ v, Queried v x.1.response ∧ store c (parameter p "variable") v = .ok x.2 :=
  undertake_storing fun started => attemptDatabase_storing d _ p c started

end TestWorker.Action
