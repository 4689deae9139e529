import TestWorker.Action.Evaluation
import TestWorker.Placeholder.Substitute
import TestWorker.Web.Client

namespace TestWorker.Action

/-- What is sent besides the headers. Everything but maps and lists goes as the text that it
shows. -/
inductive HttpBody where
  | absent
  | json (value : Value)
  | text (s : String)
  | bytes (bs : Text.Bytes)
  deriving Repr

structure HttpCall where
  method : String
  headers : List (String × String)
  params : Value
  body : HttpBody
  timeout : Option Double
  deriving Repr

namespace HttpCall

def parameter (p : Entries) (name : String) : Value := (Entries.get? p name).getD .null

def methodOf (p : Entries) : String :=
  let m := parameter p "method"
  Text.upper (if m.truthy then m.display else "GET")

def headersOf (v : Value) : Except Fault (List (String × String)) :=
  if !v.truthy then .ok []
  else match v with
    | .object es =>
      .ok ((es.filter fun (_, v) => !v.isNull).map fun (k, v) => (k, Placeholder.spliced v))
    | v => .error (.noOperation v.qualifiedKind "items")

def bodyOf : Value → HttpBody
  | .null => .absent
  | .list vs => .json (.list vs)
  | .object es => .json (.object es)
  | .bytes bs => .bytes bs
  | v => .text v.display

def badDouble (v : Value) : Fault := .badValue ("could not convert string to float: " ++ v.literal)

def secondsOf : Value → Except Fault Double
  | .bool b => .ok (.ofNat b.toNat)
  | .int n =>
    let x := Double.ofInt n
    if x.isFinite then .ok x else .error (.overflow "int too large to convert to float")
  | .float x => .ok x
  | .text s => match Number.double? s with
    | some x => .ok x
    | none => .error (badDouble (.text s))
  | .bytes bs => match Number.double? (Text.Encoding.latin1.decodeLossy bs) with
    | some x => .ok x
    | none => .error (badDouble (.bytes bs))
  | .decimal w => match Number.double? w with
    | some x => .ok x
    | none => .error (badDouble (.decimal w))
  | v => .error (.wrongKind ("float() argument must be a string or a real number, not '" ++
      v.qualifiedKind ++ "'"))

/-- `data` counts even when it is null; `body` only where there is no `data`. -/
def ofParameters (p : Entries) : Except Fault HttpCall := do
  let headers ← headersOf (parameter p "headers")
  let params := parameter p "params"
  let data := ((Entries.get? p "data").orElse fun _ => Entries.get? p "body").getD .null
  let timeout ← match parameter p "timeout" with
    | .null => pure none
    | v => some <$> secondsOf v
  return { method := methodOf p, headers, timeout
           params := if params.truthy then params else .null
           body := bodyOf data }

def draft (c : HttpCall) (url : Value) : Web.Draft where
  method := c.method
  url := url
  headers := c.headers
  parameters := if c.params.isNull then .fromUrl else .replaced c.params
  content := match c.body with
    | .absent => .absent
    | .json v => .json v
    | .text s => .raw (Text.utf8Bytes s)
    | .bytes bs => .raw bs
  timeout := c.timeout

end HttpCall

/-- Faults of the transport are told apart from faults in the request itself. -/
def attemptHttp (name : String) (client : Web.Client) (p : Entries) (started : Instant) :
    Attempt Outcome := do
  let url := HttpCall.parameter p "url"
  if !url.truthy then
    return ← failed name "URL must be provided, got none" started
  let call := HttpCall.methodOf p ++ " " ++ url.display
  let send : Attempt Web.Response := do
    client.send ((← Attempt.ofExcept (HttpCall.ofParameters p)).draft url)
  match ← liftM send.outcome with
  | .error (.transport kind message) =>
    failed name (call ++ " failed: " ++ kind) started
      (if message.isEmpty then none else some message)
  | .error f => throw f
  | .ok response =>
    let payload ← Attempt.ofExcept response.payload
    let summary := call ++ " returned " ++ toString response.status
    let report ← Report.take name (!response.isError) summary started
    return { reports := [report], response := .object payload }

end TestWorker.Action
