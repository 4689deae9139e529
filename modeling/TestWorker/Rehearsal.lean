import TestWorker.Outside

namespace TestWorker

namespace Rehearsal

inductive Answer where
  | response (status : Nat) (headers : List (String × String)) (body : Text.Bytes)
  | refusal (kind : String) (message : Option String)
  deriving Repr

/-- A rule answers the requests that meet all its conditions, as many times as it may. -/
structure Rule where
  method : Option String := none
  host : Option String := none
  path : Option String := none
  url : Option String := none
  times : Option Nat := none
  delay : Nat := 0
  answer : Answer
  deriving Repr

structure QueryAnswer where
  delay : Nat := 0
  /-- The rows, or the kind and message of a refusal. -/
  result : Except (String × Option String) Database.ResultSet

structure Script where
  rules : List Rule := []
  results : List QueryAnswer := []

/-- What has been asked and printed so far, in order. -/
structure Record where
  requests : List (Instant × Web.Request) := []
  events : List Database.Event := []
  printed : List Line := []

end Rehearsal

structure Rehearsal where
  script : Rehearsal.Script := {}
  targets : Web.Jar := []
  coordinator : Web.Jar := []
  record : Rehearsal.Record := {}

namespace Rehearsal

def meets (condition : Option String) (actual : String) : Bool :=
  match condition with
  | some c => c == actual
  | none => true

def Rule.fits (rule : Rule) (r : Web.Request) : Bool :=
  meets rule.method r.method && meets rule.host r.url.hostName && meets rule.path r.url.plainPath &&
    meets rule.url r.url.text && rule.times != some 0

def Rule.spend (rule : Rule) : Rule := { rule with times := rule.times.map (· - 1) }

/-- The first rule that fits, and the rules once it is used. -/
def pick (r : Web.Request) : List Rule → Option (Rule × List Rule)
  | [] => none
  | rule :: rules =>
    if rule.fits r then some (rule, rule.spend :: rules)
    else (pick r rules).map fun (x, rest) => (x, rule :: rest)

def transportKinds : List String := [
  "HTTPError", "RequestError", "TransportError", "TimeoutException", "ConnectTimeout",
  "ReadTimeout", "WriteTimeout", "PoolTimeout", "NetworkError", "ConnectError", "ReadError",
  "WriteError", "CloseError", "ProtocolError", "LocalProtocolError", "RemoteProtocolError",
  "ProxyError", "UnsupportedProtocol", "DecodingError", "TooManyRedirects", "HTTPStatusError"]

def refusal (kind : String) (message : Option String) : Fault :=
  if transportKinds.contains kind then .transport kind (message.getD "") else .raised kind message

def Answer.give : Answer → Except Fault Web.Response
  | response status headers body => Web.Response.create status headers body
  | refusal kind message => .error (Rehearsal.refusal kind message)

/-- What is answered where no rule fits. -/
def otherwise : Answer := .response 200 [] [123, 125]

/-- Only the two web schemes are carried. -/
def carried (u : Web.Url) : Except Fault Unit :=
  if u.scheme.isEmpty then
    .error (.transport "UnsupportedProtocol"
      "Request URL is missing an 'http://' or 'https://' protocol.")
  else if u.scheme == "http" || u.scheme == "https" then .ok ()
  else
    .error (.transport "UnsupportedProtocol"
      ("Request URL has an unsupported protocol '" ++ u.scheme ++ "://'."))

def exchange (r : Web.Request) (now : Instant) (w : Rehearsal) :
    Except Fault Web.Response × Nat × Rehearsal :=
  let w := { w with record.requests := w.record.requests ++ [(now, r)] }
  match carried r.url with
  | .error f => (.error f, 0, w)
  | .ok () =>
    match pick r w.script.rules with
    | some (rule, rules) => (rule.answer.give, rule.delay, { w with script.rules := rules })
    | none => (otherwise.give, 0, w)

def note (e : Database.Event) (w : Rehearsal) : Rehearsal :=
  { w with record.events := w.record.events ++ [e] }

def answerQuery (s : Database.Statement) (w : Rehearsal) :
    Except Fault Database.ResultSet × Nat × Rehearsal :=
  let w := w.note (.execute s)
  match w.script.results with
  | [] => (.ok {}, 0, w)
  | a :: rest =>
    let result := match a.result with
      | .ok rows => .ok rows
      | .error (kind, message) => .error (Database.refusal kind message s)
    (result, a.delay, { w with script.results := rest })

def jar (w : Rehearsal) : Session → Web.Jar
  | .targets => w.targets
  | .coordinator => w.coordinator

def keep (w : Rehearsal) (s : Session) (u : Web.Url) (lines : List String) : Rehearsal :=
  match s with
  | .targets => { w with targets := Web.Jar.keep w.targets u lines }
  | .coordinator => { w with coordinator := Web.Jar.keep w.coordinator u lines }

/-- A new connection starts without cookies. -/
def forget (w : Rehearsal) : Session → Rehearsal
  | .targets => { w with targets := [] }
  | .coordinator => { w with coordinator := [] }

def outside : Outside Rehearsal := fun e now w =>
  match e with
  | .clock => ⟨now, 0, w⟩
  | .print lines => ⟨(), 0, { w with record.printed := w.record.printed ++ lines }⟩
  | .exchange r => let (v, d, w) := w.exchange r now; ⟨v, d, w⟩
  | .cookies s => ⟨w.jar s, 0, w⟩
  | .remember s u lines => ⟨(), 0, w.keep s u lines⟩
  | .step s => ⟨.ok (), 0, w.note (.step s)⟩
  | .query s => let (v, d, w) := w.answerQuery s; ⟨v, d, w⟩
  | .draw d => ⟨d.sample, 0, w⟩
  | .pause d => ⟨(), d, w⟩

end Rehearsal
end TestWorker
