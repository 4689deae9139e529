import TestWorker.Web.Query
import TestWorker.Web.Url

namespace TestWorker.Database

inductive Dialect where
  | mysql
  | postgresql
  | mssql
  | sqlite
  deriving DecidableEq, Repr

namespace Dialect

def name : Dialect → String
  | mysql => "mysql"
  | postgresql => "postgresql"
  | mssql => "mssql"
  | sqlite => "sqlite"

def driver : Dialect → String
  | mysql => "mysql+aiomysql"
  | postgresql => "postgresql+asyncpg"
  | mssql => "mssql+aioodbc"
  | sqlite => "sqlite+aiosqlite"

/-- Upper and lower case are the same in a dialect's name. -/
def ofName? (s : String) : Option Dialect :=
  [mysql, postgresql, mssql, sqlite].find? fun d => d.name == Text.lower s

end Dialect

/-- Whatever the password is, its display is what is sent. -/
structure Address where
  driver : String
  username : Option String := none
  password : Option Value := none
  host : Option String := none
  port : Option Int := none
  database : Option String := none
  query : Web.Query := []
  deriving Repr

/-- User name and password in front of the host. The password may hold anything but an at sign. -/
def splitUser (cs : List Char) : Option String × Option String × List Char :=
  let plain (c : Char) : Bool := c != ':' && c != '/'
  let run := cs.takeWhile plain
  let rest := cs.dropWhile plain
  match rest with
  | ':' :: after =>
    if after.contains '@' then
      (some (Web.str run), some (Web.str (after.takeWhile (· != '@'))),
        (after.dropWhile (· != '@')).drop 1)
    else alone run rest
  | _ => alone run rest
where
  alone (run rest : List Char) : Option String × Option String × List Char :=
    match Web.splitLast '@' run with
    | some (user, host) => (some (Web.str user), none, host ++ rest)
    | none => (none, none, run ++ rest)

/-- A host in brackets, or one up to the first mark. -/
def splitHost (cs : List Char) : Option String × List Char :=
  let bracketed := match cs with
    | '[' :: inner =>
      let reach := inner.takeWhile fun c => c != '/' && c != '?'
      match Web.splitLast ']' reach with
      | some (host, after) =>
        if host.isEmpty then none else some (Web.str host, after ++ inner.drop reach.length)
      | none => none
    | _ => none
  match bracketed with
  | some (host, rest) => (some host, rest)
  | none =>
    let plain (c : Char) : Bool := c != '/' && c != ':' && c != '?'
    let host := cs.takeWhile plain
    (if host.isEmpty then none else some (Web.str host), cs.dropWhile plain)

def splitPort (cs : List Char) : Option String × List Char :=
  match cs with
  | ':' :: r =>
    let plain (c : Char) : Bool := c != '/' && c != '?'
    (some (Web.str (r.takeWhile plain)), r.dropWhile plain)
  | r => (none, r)

def splitDatabase (cs : List Char) : Option String × List Char :=
  match cs with
  | '/' :: r => (some (Web.str (r.takeWhile (· != '?'))), r.dropWhile (· != '?'))
  | r => (none, r)

def splitQuery (cs : List Char) : Option String :=
  match cs with
  | '?' :: r => some (Web.str (r.takeWhile (· != '\n')))
  | _ => none

/-- Parameters without a value are dropped. -/
def queryOf (s : String) : Web.Query :=
  (Web.Query.ofText s).filterMap fun (n, vs) =>
    let vs := vs.filter (!·.isEmpty)
    if vs.isEmpty then none else some (n, vs)

def badNumber (v : Value) : Fault :=
  .badValue ("invalid literal for int() with base 10: " ++ v.literal)

def wholeNumber : Value → Except Fault Int
  | .bool b => .ok (if b then 1 else 0)
  | .int n => .ok n
  | .float .nan => .error (.badValue "cannot convert float NaN to integer")
  | .float (.infinite _) => .error (.overflow "cannot convert float infinity to integer")
  | .float x => .ok (x.truncate?.getD 0)
  | .text s => match Number.int? s with
    | some n => .ok n
    | none => .error (badNumber (.text s))
  | .bytes bs => match Number.int? (Text.Encoding.latin1.decodeLossy bs) with
    | some n => .ok n
    | none => .error (badNumber (.bytes bs))
  | .decimal w => match (Value.decimal w).number? with
    | some q => .ok (Int.tdiv q.num q.den)
    | none => .error (.badValue "cannot convert NaN to integer")
  | v => .error (.wrongKind ("int() argument must be a string, a bytes-like object or a real" ++
      " number, not '" ++ v.qualifiedKind ++ "'"))

def isNameChar (c : Char) : Bool := Text.isWord c || c == '+'

def malformed : Fault :=
  .database "ArgumentError" "Could not parse SQLAlchemy URL from given URL string"

/-- Reads an address and puts the given driver in the place of its own. -/
def Address.ofText (driver s : String) : Except Fault Address := do
  let cs := s.toList
  let name := cs.takeWhile isNameChar
  match name, cs.dropWhile isNameChar with
  | _ :: _, ':' :: '/' :: '/' :: rest =>
    let (username, password, rest) := splitUser rest
    let (host, rest) := splitHost rest
    let (port, rest) := splitPort rest
    let (database, rest) := splitDatabase rest
    let port ← port.mapM fun p => wholeNumber (.text p)
    return {
      driver, host, port
      username := username.map Web.unquote
      password := password.map fun p => .text (Web.unquote p)
      database := database.map Web.unquote
      query := ((splitQuery rest).map queryOf).getD [] }
  | _, _ => throw malformed

def textOrNothing (what : String) : Value → Except Fault (Option String)
  | .null => .ok none
  | .text s => .ok (some s)
  | _ => .error (.wrongKind (what ++ " must be a string"))

def Address.ofEntries (driver : String) (es : Entries) : Except Fault Address := do
  let get (k : String) : Value := (Entries.get? es k).getD .null
  let user := if (get "username").truthy then get "username" else get "user"
  let port ← match get "port" with
    | .null => pure none
    | .text "" => pure none
    | v => some <$> wholeNumber v
  let username ← textOrNothing "username" user
  let host ← textOrNothing "host" (get "host")
  let database ← textOrNothing "database" (get "database")
  let password := match get "password" with
    | .null => none
    | v => some v
  return { driver, username, password, host, port, database }

def Address.ofValue (driver : String) : Value → Except Fault Address
  | .text s => Address.ofText driver s
  | .object es => Address.ofEntries driver es
  | _ => .error (.badValue "Connection must be a URL string or a mapping")

/-- The characters that stand for themselves; a percent sign never does. -/
def escaped (safe : Char → Bool) (s : String) : String :=
  Web.str (s.toList.flatMap fun c =>
    if Web.isUnreserved c || safe c then [c] else Web.percentChar c)

def userSafe (c : Char) : Bool := c == ' ' || c == '+'

def databaseSafe (c : Char) : Bool := c == ' ' || c == '+' || c == '/'

def queryText (q : Web.Query) : String :=
  (Web.Query.text (q.mergeSort fun (n, _) (m, _) => decide (n ≤ m)))

/-- The written form; `password` says how the password is shown. -/
def Address.write (password : Value → String) (a : Address) : String :=
  a.driver ++ "://" ++
  (match a.username with
    | some u => escaped userSafe u ++
      (match a.password with
        | some p => ":" ++ password p
        | none => "") ++ "@"
    | none => "") ++
  (match a.host with
    | some h => if h.contains ':' then "[" ++ h ++ "]" else h
    | none => "") ++
  (match a.port with
    | some p => ":" ++ toString p
    | none => "") ++
  (match a.database with
    | some d => "/" ++ escaped databaseSafe d
    | none => "") ++
  (if a.query.isEmpty then "" else "?" ++ queryText a.query)

def Address.text (a : Address) : String := a.write fun p => escaped userSafe p.display

def Address.masked (a : Address) : String := a.write fun _ => "***"

end TestWorker.Database
