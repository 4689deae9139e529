import TestWorker.Action.Generate

namespace TestWorker

/-- A unit of work that is ready to run. -/
inductive Action where
  | http (name : String) (parameters : Entries)
  | database (dialect : Database.Dialect) (parameters : Entries)
  | generate (parameters : Entries)
  deriving Repr

structure Equipment where
  client : Web.Client
  providers : List Provider
  deriving Repr

namespace Action

def name : Action → String
  | http n _ => n
  | database .. => "Database.query"
  | generate _ => "Faker.generate"

def parameters : Action → Entries
  | http _ p | database _ p | generate p => p

def kind : Action → String
  | http .. => "HttpAction"
  | database .mysql _ => "MySqlDatabase"
  | database .postgresql _ => "PostgresqlDatabase"
  | database .mssql _ => "MssqlDatabase"
  | database .sqlite _ => "SqliteDatabase"
  | generate _ => "FakerGenerate"

def label (a : Action) : String := a.kind ++ "(" ++ a.name ++ ")"

def methods : List String := ["GET", "POST", "PUT", "PATCH", "DELETE", "HEAD", "OPTIONS"]

def methodName (method : String) : String := "Http." ++ Text.asciiLower method

/-- How an action is made from its parameters. -/
inductive Recipe where
  | request
  | method (m : String)
  | query
  | generate
  deriving DecidableEq, Repr

def Recipe.ofName? (name : String) : Option Recipe :=
  if name == "Http.request" then some .request
  else if name == "Faker.generate" then some .generate
  else if name == "Database.query" then some .query
  else (methods.find? fun m => methodName m == name).map .method

def recipe? : Value → Option Recipe
  | .text name => Recipe.ofName? name
  | _ => none

def dialect? : Value → Option Database.Dialect
  | .text s => Database.Dialect.ofName? s
  | _ => none

/-- A map of parameters from any value that lists pairs; parameters have texts as their names. -/
def parametersOf (v : Value) : Except Fault Entries := do
  let c ← Context.ofValue v
  return c.entries.filterMap fun
    | (.text k, v) => some (k, v)
    | _ => none

/-- The map itself; what is false counts as empty. -/
def mapOf (refuse : String → Fault) (v : Value) : Except Fault Entries :=
  match v.truthy, v with
  | false, _ => .ok []
  | true, .object es => .ok es
  | true, v => .error (refuse v.qualifiedKind)

def Recipe.build (r : Recipe) (parameters : Value) : Except Fault Action :=
  match r with
  | request => do return .http "Http.request" (← parametersOf parameters)
  | method m => do
    let es ← mapOf .notMapping parameters
    return .http (methodName m) (Entries.put es "method" (.text m))
  | query => do
    let es ← mapOf (.noOperation · "get") parameters
    let dialect := HttpCall.parameter es "dialect"
    match dialect? dialect with
    | some d => return .database d es
    | none => throw (.misconfigured (.unknownDialect dialect))
  | generate => do return .generate (← parametersOf parameters)

def build (name parameters : Value) : Except Fault Action :=
  match recipe? name with
  | some r => r.build parameters
  | none => .error (.misconfigured (.unknownAction name))

def work (e : Equipment) (a : Action) (started : Instant) : Work Outcome :=
  match a with
  | http n p => Work.of (attemptHttp n e.client p started)
  | database d p => attemptDatabase d a.name p started
  | generate p => attemptGenerate e.providers a.name p started

/-- Runs an action; it ends with an outcome whatever happens. -/
def run (e : Equipment) (a : Action) (c : Context) : Activity (Outcome × Context) :=
  undertake a.name (a.work e) c

end Action
end TestWorker
