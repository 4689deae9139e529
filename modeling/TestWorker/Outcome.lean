import TestWorker.Fault

namespace TestWorker

/-- One line about one action; `time` is in milliseconds. -/
structure Report where
  action : String
  success : Bool
  summary : String
  details : Option String := none
  time : Double := .zero false
  deriving Repr

def Report.view (r : Report) : Value := .object [
  ("action", .text r.action), ("success", .bool r.success), ("shortSummary", .text r.summary),
  ("longSummary", (r.details.map Value.text).getD .null), ("time", .float r.time)]

/-- The reports in order, and the payload of what answered, null if nothing did. -/
structure Outcome where
  reports : List Report
  response : Value := .null
  deriving Repr

namespace Outcome

def success (o : Outcome) : Bool := o.reports.all (·.success)

def time (o : Outcome) : Option Double := o.reports.head?.map (·.time)

def timeView (o : Outcome) : Value := (o.time.map Value.float).getD .null

end Outcome

/-- The fields of a response that the coordinator stores. -/
def reportedFields : List String := ["data", "headers", "status"]

def keepReported (es : Entries) : Entries :=
  reportedFields.filterMap fun k => (Entries.get? es k).map (k, ·)

/-- A text stands somewhere in another. -/
def Text.occursIn (p : List Char) : List Char → Bool
  | [] => p.isEmpty
  | c :: cs => p.isPrefixOf (c :: cs) || occursIn p cs

/-- The stored fields of any value; a value that holds such a name without being an object has no
field to give. -/
def projectResponse (response : Value) : Except Fault Entries :=
  if !response.truthy then .ok []
  else
    let named (vs : List Value) := vs.any fun v => reportedFields.any fun k => v.sameKey (.text k)
    match response with
    | .object es => .ok (keepReported es)
    | .list vs =>
      if named vs then .error (.wrongKind "list indices must be integers or slices, not str")
      else .ok []
    | .tuple vs =>
      if named vs then .error (.wrongKind "tuple indices must be integers or slices, not str")
      else .ok []
    | .text s =>
      if reportedFields.any fun k => Text.occursIn k.toList s.toList
      then .error (.wrongKind "string indices must be integers, not 'str'") else .ok []
    | .bytes _ => .error (.wrongKind "a bytes-like object is required, not 'str'")
    | v => .error (.wrongKind ("argument of type '" ++ v.qualifiedKind ++ "' is not iterable"))

/-- What is told the coordinator about a request. -/
structure ExecutionResult where
  response : Entries
  executionTime : Option Double
  deriving Repr

namespace ExecutionResult

def ofOutcome (o : Outcome) : Except Fault ExecutionResult := do
  return ⟨← projectResponse o.response, o.time⟩

def view (r : ExecutionResult) : Value := .object [
  ("response", .object r.response), ("executionTime", (r.executionTime.map Value.float).getD .null)]

end ExecutionResult
end TestWorker
