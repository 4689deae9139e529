import TestWorker.Activity
import TestWorker.Context
import TestWorker.Outcome

namespace TestWorker

def Report.take (action : String) (success : Bool) (summary : String) (started : Instant)
    (details : Option String := none) : Attempt Report := do
  return { action, success, summary, details, time := ← liftM (Activity.since started) }

namespace Action

def failed (name summary : String) (started : Instant) (details : Option String := none)
    (response : Value := .null) : Attempt Outcome := do
  return { reports := [← Report.take name false summary started details], response }

/-- Where nothing is reported, that is the failure. -/
def reported (name : String) (started : Instant) (o : Outcome) : Activity Outcome := do
  if o.reports.isEmpty then
    return { reports := [{ action := name, success := false, summary := "Action produced no report"
                           time := ← Activity.since started }] }
  else return o

/-- An attempt that works on the variables: what it has stored stays, also when a fault ends it. -/
abbrev Work := ExceptT Fault (StateT Context Activity)

namespace Work

def of (t : Attempt α) : Work α := fun c => do return (← t.outcome, c)

def outcome (w : Work α) (c : Context) : Activity (Except Fault α × Context) := w c

end Work

/-- The outcome of the work and the variables after it. A fault is told in the one report. -/
def undertake (name : String) (work : Instant → Work Outcome) (c : Context) :
    Activity (Outcome × Context) := do
  let started ← Activity.now
  match ← (work started).outcome c with
  | (.ok o, c) => return (← reported name started o, c)
  | (.error f, c) =>
    let f := f.leaving
    return ({ reports := [{ action := name, success := false
                            summary := f.kind ++ ": " ++ f.message, details := some f.literal
                            time := ← Activity.since started }] }, c)

/-- As `undertake`, for an attempt that gives the variables back together with its outcome. -/
def evaluate (name : String) (attempt : Instant → Attempt (Outcome × Context)) (c : Context) :
    Activity (Outcome × Context) :=
  undertake name (fun started => do
    let (o, c) ← Work.of (attempt started)
    set c
    return o) c

end Action
end TestWorker
