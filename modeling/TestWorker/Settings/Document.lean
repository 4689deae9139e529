import TestWorker.Fault
import TestWorker.Settings

namespace TestWorker.Settings

/-- Names of what a call lacks, listed for a reader. -/
def enumerate (names : List String) : String :=
  let quoted := names.map Text.quote
  match quoted.reverse with
  | [] => ""
  | [a] => a
  | [b, a] => a ++ " and " ++ b
  | last :: init => ", ".intercalate init.reverse ++ ", and " ++ last

def missing (callee : String) (names : List String) : Fault :=
  .wrongKind (callee ++ "() missing " ++ toString names.length ++ " required positional argument" ++
    (if names.length = 1 then "" else "s") ++ ": " ++ enumerate names)

/-- Every setting in order, with what it is when it is not given. -/
def fields : List (String × Option Value) := [
  ("location_secret", none), ("location_key", none),
  ("base_url", some (.text defaultBaseUrl)), ("location_context", some .null),
  ("batch_size", some (.int 100)), ("frequency", some .null), ("max_time", some .null),
  ("logging", some (.text "off")), ("ignore_ssl", some (.bool false)),
  ("concurrency", some .null), ("strict_placeholders", some (.bool false))]

/-- Settings as values, one for every field and in their order. -/
structure Document where
  values : Entries
  deriving Repr

namespace Document

def get (d : Document) (name : String) : Value := (Entries.get? d.values name).getD .null

/-- Whether a number is below one; a value that is none has no answer. -/
def belowOne (v : Value) : Except Fault Bool :=
  match v with
  | .float x => .ok (x.lt (.ofNat 1))
  | v => match v.number? with
    | some q => .ok (decide (q < 1))
    | none => .error (.wrongKind ("'<' not supported between instances of '" ++
        v.qualifiedKind ++ "' and 'int'"))

/-- The first rule that is broken, in the order in which they are checked. -/
def check (d : Document) : Except Fault Unit := do
  match d.get "logging" with
  | .text "off" | .text "on" | .text "cli" => pure ()
  | v => throw (.badValue ("logging must be one of ('off', 'on', 'cli'), got " ++ v.literal))
  if ← belowOne (d.get "batch_size") then throw (.badValue "batch_size must be at least 1")
  let c := d.get "concurrency"
  if !c.isNull then
    if ← belowOne c then throw (.badValue "concurrency must be at least 1 when set")

def normalBase : Value → Except Fault Value
  | .text s => .ok (.text (trimBase s))
  | .bytes _ => .error (.wrongKind "a bytes-like object is required, not 'str'")
  | v => .error (.noOperation v.qualifiedKind "rstrip")

/-- The context named `Default` is none. -/
def normalContext : Value → Value
  | .text "Default" => .null
  | v => v

def ofArguments (given : Entries) : Except Fault Document := do
  let callee := "WorkerSettings.__init__"
  match given.find? fun (k, _) => !fields.any (·.1 == k) with
  | some (k, _) =>
    throw (.wrongKind (callee ++ "() got an unexpected keyword argument " ++ Text.quote k))
  | none => pure ()
  let absent := fields.filterMap fun (k, default) =>
    if default.isNone && !Entries.contains given k then some k else none
  if !absent.isEmpty then throw (missing callee absent)
  let values := fields.map fun (k, default) => (k, (Entries.get? given k).getD (default.getD .null))
  let base ← normalBase ((Entries.get? values "base_url").getD .null)
  let values := values.map fun (k, v) =>
    if k == "base_url" then (k, base)
    else if k == "location_context" then (k, normalContext v)
    else (k, v)
  let d : Document := ⟨values⟩
  d.check
  return d

def orNull (v : Value) : Value := if v.truthy then v else .null

def optionNames : List String :=
  ["url", "secret", "key", "context", "frequency", "max_time", "batch", "logging", "ignore_ssl",
    "concurrency", "strict_placeholders"]

def ofOptions (args : List Value) : Except Fault Document :=
  match args with
  | [url, secret, key, context, frequency, maxTime, batch, logging,
    ignoreSsl, concurrency, strict] =>
    ofArguments [("base_url", url), ("location_secret", secret), ("location_key", key),
      ("location_context", orNull context), ("batch_size", batch), ("frequency", orNull frequency),
      ("max_time", orNull maxTime), ("logging", logging), ("ignore_ssl", ignoreSsl),
      ("concurrency", orNull concurrency), ("strict_placeholders", strict)]
  | args =>
    let n := optionNames.length
    if args.length < n then .error (missing "build_settings" (optionNames.drop args.length))
    else .error (.wrongKind ("build_settings() takes " ++ toString n ++
      " positional arguments but " ++ toString args.length ++ " were given"))

/-- The first three of a secret that has a start to cut off. -/
def masked (d : Document) : Except Fault String :=
  match d.get "location_secret" with
  | .text s => .ok (mask s)
  | .bytes bs => .ok ((Value.bytes (bs.take 3)).literal ++ "********")
  | .list vs => .ok ((Value.list (vs.take 3)).literal ++ "********")
  | .tuple vs => .ok ((Value.tuple (vs.take 3)).literal ++ "********")
  | .object _ => .error (.unhashable "slice")
  | v => .error (.wrongKind ("'" ++ v.qualifiedKind ++ "' object is not subscriptable"))

def headers (d : Document) : Entries :=
  [("x-location-secret", d.get "location_secret"), ("x-location-key", d.get "location_key")] ++
    if (d.get "location_context").truthy then [("x-location-context", d.get "location_context")]
    else []

def oneShot (d : Document) : Bool := !(d.get "frequency").truthy

def logging (d : Document) : Logging := Logging.ofName (d.get "logging").display

def int? : Value → Option Int
  | .int n => some n
  | .bool b => some b.toNat
  | .float x => x.truncate?
  | _ => none

def nat? (v : Value) : Option Nat := (int? v).map Int.toNat

def settings (d : Document) : Settings where
  secret := (d.get "location_secret").display
  key := (d.get "location_key").display
  baseUrl := (d.get "base_url").display
  context :=
    if (d.get "location_context").truthy then some (d.get "location_context").display else none
  batchSize := (nat? (d.get "batch_size")).getD 100
  frequency := int? (d.get "frequency")
  maxTime := int? (d.get "max_time")
  logging := d.logging
  ignoreSsl := (d.get "ignore_ssl").truthy
  concurrency := nat? (d.get "concurrency")
  strict := (d.get "strict_placeholders").truthy

end Document
end TestWorker.Settings
