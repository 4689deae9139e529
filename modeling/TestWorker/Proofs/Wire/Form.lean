import TestWorker.Wire.Job
import TestWorker.Wire.Result

namespace TestWorker.Wire

/-- What is written is read as it was. -/
def Undoes {α : Type} (read : Value → Except (List Issue) α) (write : α → Value) : Prop :=
  ∀ a, read (write a) = .ok a

section
variable {α : Type} {read : Value → Except (List Issue) α} {write : α → Value}

theorem nullable_of_ne {v : Value} (h : v ≠ .null) : nullable read v = (read v).map some := by
  cases v with
  | null => exact absurd rfl h
  | _ => rfl

theorem orElse_of_ne {v : Value} (default : α) (h : v ≠ .null) :
    orElse default read v = read v := by
  cases v with
  | null => exact absurd rfl h
  | _ => rfl

theorem Undoes.nullable (h : Undoes read write) (hnull : ∀ a, write a ≠ .null) :
    Undoes (nullable read) fun o => (o.map write).getD .null := by
  intro o
  cases o with
  | none => rfl
  | some a =>
    change Wire.nullable read (write a) = _
    rw [nullable_of_ne (hnull a), h a]
    rfl

theorem Undoes.orElse (h : Undoes read write) (hnull : ∀ a, write a ≠ .null) (default : α) :
    Undoes (orElse default read) write := fun a =>
  (orElse_of_ne default (hnull a)).trans (h a)

theorem Undoes.items (h : Undoes read write) (n : Nat) (as : List α) :
    items read n (as.map write) = .ok as := by
  induction as generalizing n with
  | nil => rfl
  | cons a as ih =>
    rw [List.map_cons, Wire.items, h a, ih]
    rfl

theorem Undoes.list (h : Undoes read write) : Undoes (list read) fun as => .list (as.map write) :=
  h.items 0

theorem Undoes.field (h : Undoes read write) {es : Entries} {name : String} {a : α}
    (ha : Entries.get? es name = some (write a)) (others : List String) (default : Option α) :
    field (.object es) (name :: others) default read = .ok a := by
  simp only [Wire.field, List.findSome?_cons, ha, Option.map_some, h a]
  rfl

end

theorem display_undoes : Undoes display .text := fun _ => rfl

theorem text_undoes : Undoes text .text := fun _ => rfl

theorem bool_undoes : Undoes bool .bool := fun _ => rfl

theorem object_undoes : Undoes object .object := fun _ => rfl

theorem bindings_undoes : Undoes bindings .object := object_undoes.orElse (fun _ => nofun) []

theorem jobs_undoes : Undoes (nullable (list anything)) fun o => (o.map Value.list).getD .null := by
  have hlist : Undoes (list anything) .list := by
    intro vs
    have h : Undoes (list anything) fun vs => .list (vs.map id) := Undoes.list fun _ => rfl
    simpa using h vs
  exact hlist.nullable fun _ => nofun

theorem double_undoes : Undoes double .float := fun _ => rfl

theorem time_undoes : Undoes (nullable double) timeView := double_undoes.nullable fun _ => nofun

theorem RequestJob.dump_undone : Undoes RequestJob.read RequestJob.dump := by
  intro j
  simp only [read, dump, model]
  rw [display_undoes.field rfl, bindings_undoes.field rfl, bindings_undoes.field rfl,
    bindings_undoes.field rfl]
  rfl

theorem TestStep.dump_undone : Undoes TestStep.read TestStep.dump := by
  intro s
  simp only [read, dump, model]
  rw [text_undoes.field rfl, bindings_undoes.field rfl]
  rfl

theorem TestJob.dump_undone : Undoes TestJob.read TestJob.dump := by
  intro j
  have hsteps := TestStep.dump_undone.list.orElse (fun _ => nofun) []
  simp only [read, dump, model]
  rw [display_undoes.field rfl, hsteps.field rfl, bindings_undoes.field rfl,
    bindings_undoes.field rfl]
  rfl

theorem RequestBatch.dump_undone : Undoes RequestBatch.read RequestBatch.dump := by
  intro b
  simp only [read, dump, model]
  rw [jobs_undoes.field rfl]
  rfl

theorem TestBatch.dump_undone : Undoes TestBatch.read TestBatch.dump := by
  intro b
  simp only [read, dump, model]
  rw [jobs_undoes.field rfl]
  rfl

theorem RequestResult.dump_undone : Undoes RequestResult.read RequestResult.dump := by
  intro r
  have hresponse := object_undoes.nullable fun _ => nofun
  simp only [read, dump, model]
  rw [hresponse.field rfl, time_undoes.field rfl]
  rfl

theorem TestResult.dump_undone : Undoes TestResult.read TestResult.dump := by
  intro r
  simp only [read, dump, model]
  rw [bool_undoes.field rfl, object_undoes.list.field rfl, time_undoes.field rfl]
  rfl

/-- The forms of the documents that go over the wire. -/
inductive Form where
  | requestJob
  | testStep
  | testJob
  | requestBatch
  | testBatch
  | requestResult
  | testResult
  deriving DecidableEq, Repr

namespace Form

def Document : Form → Type
  | requestJob => RequestJob
  | testStep => TestStep
  | testJob => TestJob
  | requestBatch => RequestBatch
  | testBatch => TestBatch
  | requestResult => RequestResult
  | testResult => TestResult

def read : (f : Form) → Value → Except (List Issue) f.Document
  | requestJob => RequestJob.read
  | testStep => TestStep.read
  | testJob => TestJob.read
  | requestBatch => RequestBatch.read
  | testBatch => TestBatch.read
  | requestResult => RequestResult.read
  | testResult => TestResult.read

def dump : (f : Form) → f.Document → Value
  | requestJob => RequestJob.dump
  | testStep => TestStep.dump
  | testJob => TestJob.dump
  | requestBatch => RequestBatch.dump
  | testBatch => TestBatch.dump
  | requestResult => RequestResult.dump
  | testResult => TestResult.dump

def names : Form → List String
  | requestJob => ["id", "request", "testVariables", "envVariables"]
  | testStep => ["action", "parameters"]
  | testJob => ["id", "actions", "testVariables", "envVariables"]
  | requestBatch => ["requests"]
  | testBatch => ["executions"]
  | requestResult => ["response", "executionTime"]
  | testResult => ["success", "actionReports", "executionTime"]

theorem dump_undone (f : Form) : Undoes f.read f.dump := by
  cases f with
  | requestJob => exact RequestJob.dump_undone
  | testStep => exact TestStep.dump_undone
  | testJob => exact TestJob.dump_undone
  | requestBatch => exact RequestBatch.dump_undone
  | testBatch => exact TestBatch.dump_undone
  | requestResult => exact RequestResult.dump_undone
  | testResult => exact TestResult.dump_undone

theorem exists_entries_dump (f : Form) (d : f.Document) :
    ∃ es, f.dump d = .object es ∧ es.map (·.1) = f.names := by
  cases f <;> exact ⟨_, rfl, rfl⟩

/-- A document that is read, in whatever way its fields are named and given, is written with each
field under its one name. What is written is read as the same document, and so it is written the
same again. -/
theorem dump_stable (f : Form) {v : Value} {d : f.Document} (h : f.read v = .ok d) :
    (∃ es, f.dump d = .object es ∧ es.map (·.1) = f.names) ∧
    f.read (f.dump d) = f.read v ∧
    (f.read (f.dump d)).map f.dump = .ok (f.dump d) := by
  have hread : f.read (f.dump d) = .ok d := f.dump_undone d
  refine ⟨f.exists_entries_dump d, hread.trans h.symm, ?_⟩
  rw [hread]
  rfl

/-- A number for an id, both names of a field, null for an object, a step with null and with a field
that no step has. -/
def looseJob : Value := .object [("id", .int 7), ("test_variables", .null),
  ("actions", .list [
    .object [("action", .text "Http.get"), ("parameters", .null), ("name", .text "x")]]),
  ("testVariables", .object [("a", .list [.int 1])]), ("env_variables", .object [("b", .null)])]

def looseDocument : TestJob where
  id := "7"
  actions := [⟨"Http.get", []⟩]
  testVariables := [("a", .list [.int 1])]
  envVariables := [("b", .null)]

theorem dump_stable_loose :
    testJob.read looseJob = .ok looseDocument ∧
    testJob.dump looseDocument = .object [("id", .text "7"),
      ("actions", .list [.object [("action", .text "Http.get"), ("parameters", .object [])]]),
      ("testVariables", .object [("a", .list [.int 1])]),
      ("envVariables", .object [("b", .null)])] ∧
    testJob.read (testJob.dump looseDocument) = testJob.read looseJob := by
  have hread : testJob.read looseJob = .ok looseDocument := by rfl
  exact ⟨hread, rfl, (dump_stable testJob hread).2.1⟩

end Form
end TestWorker.Wire
