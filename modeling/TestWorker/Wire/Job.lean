import TestWorker.Wire.Reader

namespace TestWorker.Wire

/-- Variables and definitions: null is the empty object. -/
def bindings (v : Value) : Except (List Issue) Entries := orElse [] object v

structure RequestJob where
  id : String
  request : Entries := []
  testVariables : Entries := []
  envVariables : Entries := []
  deriving Repr

namespace RequestJob

def read (v : Value) : Except (List Issue) RequestJob :=
  model "RequestJob" (fun v =>
    (Checked.both (field v ["id"] none display)
      (Checked.both (field v ["request"] (some []) bindings)
        (Checked.both (field v ["testVariables", "test_variables"] (some []) bindings)
          (field v ["envVariables", "env_variables"] (some []) bindings)))).map
      fun (id, request, test, env) => ⟨id, request, test, env⟩) v

def dump (j : RequestJob) : Value := .object [
  ("id", .text j.id), ("request", .object j.request), ("testVariables", .object j.testVariables),
  ("envVariables", .object j.envVariables)]

end RequestJob

structure TestStep where
  action : String
  parameters : Entries := []
  deriving Repr

namespace TestStep

def read (v : Value) : Except (List Issue) TestStep :=
  model "TestStep" (fun v =>
    (Checked.both (field v ["action"] none text) (field v ["parameters"] (some []) bindings)).map
      fun (action, parameters) => ⟨action, parameters⟩) v

def dump (s : TestStep) : Value :=
  .object [("action", .text s.action), ("parameters", .object s.parameters)]

end TestStep

structure TestJob where
  id : String
  actions : List TestStep := []
  testVariables : Entries := []
  envVariables : Entries := []
  deriving Repr

namespace TestJob

def read (v : Value) : Except (List Issue) TestJob :=
  model "TestJob" (fun v =>
    (Checked.both (field v ["id"] none display)
      (Checked.both (field v ["actions"] (some []) (orElse [] (list TestStep.read)))
        (Checked.both (field v ["testVariables", "test_variables"] (some []) bindings)
          (field v ["envVariables", "env_variables"] (some []) bindings)))).map
      fun (id, actions, test, env) => ⟨id, actions, test, env⟩) v

def dump (j : TestJob) : Value := .object [
  ("id", .text j.id), ("actions", .list (j.actions.map TestStep.dump)),
  ("testVariables", .object j.testVariables), ("envVariables", .object j.envVariables)]

end TestJob

/-- The envelope of fetched requests; each job in it is read on its own. -/
structure RequestBatch where
  requests : Option (List Value) := none
  deriving Repr

namespace RequestBatch

def read (v : Value) : Except (List Issue) RequestBatch :=
  model "RequestBatch" (fun v =>
    (field v ["requests"] (some none) (nullable (list anything))).map RequestBatch.mk) v

def dump (b : RequestBatch) : Value :=
  .object [("requests", (b.requests.map Value.list).getD .null)]

end RequestBatch

structure TestBatch where
  executions : Option (List Value) := none
  deriving Repr

namespace TestBatch

def read (v : Value) : Except (List Issue) TestBatch :=
  model "TestBatch" (fun v =>
    (field v ["executions"] (some none) (nullable (list anything))).map TestBatch.mk) v

def dump (b : TestBatch) : Value :=
  .object [("executions", (b.executions.map Value.list).getD .null)]

end TestBatch
end TestWorker.Wire
