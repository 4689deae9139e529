import TestWorker.Wire.Reader

namespace TestWorker.Wire

structure RequestResult where
  response : Option Entries := none
  executionTime : Option Double := none
  deriving Repr

def timeView (t : Option Double) : Value := (t.map Value.float).getD .null

namespace RequestResult

def read (v : Value) : Except (List Issue) RequestResult :=
  model "RequestResultPayload" (fun v =>
    (Checked.both (field v ["response"] (some none) (nullable object))
      (field v ["executionTime", "execution_time"] (some none) (nullable double))).map
      fun (response, time) => ⟨response, time⟩) v

def dump (r : RequestResult) : Value := .object [
  ("response", (r.response.map Value.object).getD .null),
  ("executionTime", timeView r.executionTime)]

end RequestResult

structure TestResult where
  success : Bool
  reports : List Entries := []
  executionTime : Option Double := none
  deriving Repr

namespace TestResult

def read (v : Value) : Except (List Issue) TestResult :=
  model "TestResultPayload" (fun v =>
    (Checked.both (field v ["success"] none bool)
      (Checked.both (field v ["actionReports", "action_reports"] (some []) (list object))
        (field v ["executionTime", "execution_time"] (some none) (nullable double)))).map
      fun (success, reports, time) => ⟨success, reports, time⟩) v

def dump (r : TestResult) : Value := .object [
  ("success", .bool r.success), ("actionReports", .list (r.reports.map Value.object)),
  ("executionTime", timeView r.executionTime)]

end TestResult
end TestWorker.Wire
