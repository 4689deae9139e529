import TestWorker.Action.Database
import TestWorker.Generator

namespace TestWorker.Action

/-- The provider of a group; a group is named by a text. -/
def providerOf (ps : List Provider) (category : Value) : Except Fault (Option Provider) :=
  match category.unhashable?, category with
  | some k, _ => .error (.unhashable k)
  | none, .text group => .ok (Provider.ofGroup? ps group)
  | none, _ => .ok none

def generatorOf (p : Provider) : Value → Except Fault (Option Draw)
  | .text function => .ok (p.find? function)
  | .bytes _ =>
    .error (.wrongKind "startswith first arg must be bytes or a tuple of bytes, not str")
  | v => .error (.noOperation v.qualifiedKind "startswith")

def draw (d : Draw) : Attempt Value := do Attempt.ofExcept (← Attempt.perform (.draw d))

def attemptGenerate (ps : List Provider) (name : String) (p : Entries) (started : Instant) :
    Work Outcome := do
  let category := HttpCall.parameter p "category"
  let function := HttpCall.parameter p "function"
  if !category.truthy then
    return ← Work.of (failed name "Category must be selected, got none" started)
  if !function.truthy then
    return ← Work.of (failed name "Function must be selected, got none" started)
  match ← Work.of (Attempt.ofExcept (providerOf ps category)) with
  | none => do
    let shown ← Work.of (Attempt.ofExcept category.formatted)
    Work.of (failed name ("Got invalid category " ++ shown) started)
  | some provider =>
    match ← Work.of (Attempt.ofExcept (generatorOf provider function)) with
    | none => Work.of (failed name ("Got invalid function " ++ function.display) started)
    | some d => do
      let value ← Work.of (draw d)
      Work.store (HttpCall.parameter p "variable") value
      -- what is stored stays, also where there is no text of it for the report
      let shown ← Work.of (Attempt.ofExcept value.formatted)
      let summary :=
        "Faked " ++ category.display ++ "." ++ function.display ++ " and got value " ++ shown
      return { reports := [← Work.of (Report.take name true summary started)] }

end TestWorker.Action
