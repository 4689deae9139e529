import TestWorker.Settings
import TestWorker.Web.Client
import TestWorker.Wire.Job
import TestWorker.Wire.Result

namespace TestWorker.Coordinator

/-- Its redirects are not followed. -/
def client : Web.Client := ⟨some .coordinator, false⟩

def timeout : Double := .ofNat Settings.coordinatorTimeout

def draft (s : Settings) (method path : String) (parameters : Web.Parameters)
    (content : Web.Content) :
    Web.Draft where
  method := Text.upper method
  url := .text (s.url path)
  headers := s.headers
  parameters := parameters
  content := content
  timeout := some timeout

/-- What an answer says: an error, nothing, or JSON. -/
def read (r : Web.Response) : Except Fault Value := do
  if r.isError then
    let status := toString r.status ++ " " ++ r.reason
    throw (.coordinator ("API request failed: " ++ status ++ ". " ++ (← r.text)))
  else if r.body.isEmpty then return .null
  else match Json.readBytes r.body with
    | .ok v => return v
    | .error e => throw (.coordinator ("Invalid JSON response: " ++ e.message))

def call (s : Settings) (method path : String) (parameters : Web.Parameters)
    (content : Web.Content) :
    Attempt Value := do
  match ← liftM (client.send (draft s method path parameters content)).outcome with
  | .ok response => Attempt.ofExcept (read response)
  | .error (.transport kind message) =>
    throw (.coordinator ("Network error: " ++ kind ++ ": " ++ message))
  | .error f => throw f

inductive Kind where
  | requests
  | tests
  deriving DecidableEq, Repr

namespace Kind

def path : Kind → String
  | requests => "/api/location/request"
  | tests => "/api/location/execution"

def plural : Kind → String
  | requests => "requests"
  | tests => "tests"

def listName : Kind → String
  | requests => "requests"
  | tests => "executions"

def jobs (k : Kind) (answer : Value) : Except Fault (List Value) :=
  let answer := if answer.truthy then answer else .object []
  let (model, found) := match k with
    | requests => ("RequestBatch", (Wire.RequestBatch.read answer).map Wire.RequestBatch.requests)
    | tests => ("TestBatch", (Wire.TestBatch.read answer).map Wire.TestBatch.executions)
  match found with
  | .ok vs => .ok (vs.getD [])
  | .error issues => .error (.coordinator ("Invalid " ++ k.listName ++ " payload: " ++
      Wire.Issue.report model issues))

end Kind

/-- Takes pending jobs of a kind off the queue. -/
def fetch (s : Settings) (k : Kind) : Attempt (List Value) := do
  let answer ← call s "GET" k.path (.replaced (.object [("amount", .int s.batchSize)])) .absent
  Attempt.ofExcept (k.jobs answer)

/-- Delivers the result of one job. -/
def deliver (s : Settings) (k : Kind) (id : String) (result : Value) : Attempt Unit := do
  let _ ← call s "POST" (k.path ++ "/" ++ id) .fromUrl (.json result)

/-- A connection is opened when it is first used after a close. -/
structure Link where
  opened : Nat := 0
  isOpen : Bool := false
  deriving DecidableEq, Repr

namespace Link

def use (l : Link) : Link := if l.isOpen then l else ⟨l.opened + 1, true⟩

def close (l : Link) : Link := { l with isOpen := false }

end Link

def profile : Web.Profile := ⟨true, client.follows, some timeout⟩

end TestWorker.Coordinator
