import TestWorker.Action.Http
import TestWorker.Database.Address

namespace TestWorker.Action

def take (s : Database.Step) : Attempt Unit := do Attempt.ofExcept (← Attempt.perform (.step s))

/-- The body between begin and the end of the transaction that it decides: the database layer is
assumed to go about it so. A commit that is refused is the fault, and nothing follows it. -/
def transaction (body : Attempt α) : Attempt α := do
  take .begin
  match ← liftM body.outcome with
  | .ok a => do
    take .commit
    return a
  | .error f => do
    take .rollback
    throw f

def runStatement (query parameters : Value) : Attempt Database.ResultSet := do
  let s ← Attempt.ofExcept (Database.Statement.ofValue query parameters)
  Attempt.ofExcept (← Attempt.perform (.query s))

/-- Stores a value under the name that `variable` gives, if it gives one. -/
def store (c : Context) (name value : Value) : Except Fault Context :=
  if name.truthy then c.set name value else .ok c

def Work.store (name value : Value) : Work Unit := fun c =>
  match Action.store c name value with
  | .ok c => return (.ok (), c)
  | .error f => return (.error f, c)

def attemptDatabase (d : Database.Dialect) (name : String) (p : Entries) (started : Instant) :
    Work Outcome := do
  let parameter (k : String) : Value := HttpCall.parameter p k
  if !(parameter "query").truthy then
    return ← Work.of (failed name "Query must be provided, got none" started)
  if !(parameter "connection").truthy then
    return ← Work.of (failed name "Connection must be provided, got none" started)
  let address ← Work.of
    (Attempt.ofExcept (Database.Address.ofValue d.driver (parameter "connection")))
  let bound := if (parameter "params").truthy then parameter "params" else .object []
  Work.of (take (.connect address.text))
  match ← Work.of (liftM (transaction (runStatement (parameter "query") bound)).outcome) with
  | .error (.database kind message) => do
    let o ← Work.of (failed name (d.name ++ " query failed: " ++ kind) started (some message))
    Work.of (take .dispose)
    return o
  | .error f => do
    Work.of (take .dispose)
    throw f
  | .ok answer => do
    Work.of (take .dispose)
    let rows := answer.objects
    Work.store (parameter "variable") (.list rows)
    let summary := d.name ++ " query returned " ++ toString rows.length ++ " row(s)"
    let report ← Work.of (Report.take name true summary started)
    let response := Value.object [("data", .list rows), ("rowCount", answer.rowCount)]
    return { reports := [report], response }

end TestWorker.Action
