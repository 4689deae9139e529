import TestWorker.Outcome
import TestWorker.Settings.Document

namespace TestWorker

structure ReportDraft where
  action : Value
  success : Value
  summary : Value
  details : Value
  time : Value
  deriving Repr

namespace ReportDraft

def required : List String := ["action", "success", "short_summary"]

def ofArguments (given : Entries) : Except Fault ReportDraft := do
  let callee := "ActionReport.__init__"
  let known := required ++ ["long_summary", "time"]
  match given.find? fun (k, _) => !known.contains k with
  | some (k, _) =>
    throw (.wrongKind (callee ++ "() got an unexpected keyword argument " ++ Text.quote k))
  | none => pure ()
  let absent := required.filter fun k => !Entries.contains given k
  if !absent.isEmpty then throw (Settings.missing callee absent)
  let get (k : String) (default : Value) := (Entries.get? given k).getD default
  return ⟨get "action" .null, get "success" .null, get "short_summary" .null,
    get "long_summary" .null, get "time" (.float (.zero false))⟩

def view (r : ReportDraft) : Value := .object [
  ("action", r.action), ("success", r.success), ("shortSummary", r.summary),
  ("longSummary", r.details), ("time", r.time)]

def allSucceed (rs : List ReportDraft) : Bool := rs.all (·.success.truthy)

def firstTime (rs : List ReportDraft) : Value := (rs.head?.map (·.time)).getD .null

end ReportDraft
end TestWorker
