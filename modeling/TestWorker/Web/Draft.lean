import TestWorker.Web.Cookie
import TestWorker.Web.Message
import TestWorker.Web.Query

namespace TestWorker.Web

inductive Content where
  | absent
  | raw (bytes : Text.Bytes)
  /-- A value sent as JSON. -/
  | json (value : Value)
  deriving Repr

/-- Where the query of a request comes from. -/
inductive Parameters where
  /-- The address keeps its own query. -/
  | fromUrl
  /-- The values take the place of the query in the address; false ones remove it. -/
  | replaced (values : Value)
  deriving Repr

structure Draft where
  method : String
  url : Value
  headers : List (String × String)
  parameters : Parameters
  content : Content
  timeout : Option Double
  deriving Repr

def liftUrl (r : Except UrlError α) : Except Fault α := r.mapError fun e => .invalidUrl e.message

/-- The address of a request; one without scheme or host becomes a path from the root. -/
def addressOf : Value → Except Fault Url
  | .text s => do
    let u ← liftUrl (Url.parse s)
    if u.isAbsolute then return u else liftUrl u.rooted
  | v => .error (.wrongKind ("Invalid type for url.  Expected str or httpx.URL, got <class '" ++
      v.qualifiedKind ++ "'>: " ++ v.display))

/-- The query to put in place of the address's own, if any. -/
def Parameters.query : Parameters → Except Fault (Option (Option String))
  | .fromUrl => .ok none
  | .replaced v =>
    if v.truthy then do
      let q ← Query.ofValue v
      return some (if q.isEmpty then none else some q.text)
    else .ok (some none)

/-- The body, with the headers that describe it. -/
def Content.encode : Content → Except Fault (Headers × Text.Bytes)
  | .absent => .ok ([], [])
  | .raw bs => .ok (if bs.isEmpty then [] else [("content-length", toString bs.length)], bs)
  | .json v => do
    let bs := Text.utf8Bytes (← (Json.strict v).mapError Fault.notJson)
    return ([("content-length", toString bs.length), ("content-type", "application/json")], bs)

def wantsLength (method : String) : Bool := ["POST", "PUT", "PATCH"].contains method

/-- Host and length, where they are not given already. -/
def complete (method : String) (url : Url) (described given : Headers) : Headers :=
  let h := described.foldl (fun h (n, v) => Headers.orElse h n v) given
  let host := if !h.has "host" && !url.host.isEmpty then [("host", url.netloc)] else []
  let length :=
    if !h.has "content-length" && !h.has "transfer-encoding" && wantsLength method
    then [("content-length", "0")] else []
  host ++ length ++ h

def basicHeader (user password : String) : String :=
  "Basic " ++ String.ofList (base64 (Text.utf8Bytes user ++ 58 :: Text.utf8Bytes password))

def credentials (u : Url) : String × String :=
  let cs := u.userinfo.toList
  (unquote (str (cs.takeWhile (· != ':'))), unquote (str ((cs.dropWhile (· != ':')).drop 1)))

/-- Credentials in the address win over a header that is given. -/
def authorize (u : Url) (h : Headers) : Headers :=
  let (user, password) := credentials u
  if user.isEmpty && password.isEmpty then h else h.put "authorization" (basicHeader user password)

def withCookies (jar : Jar) (u : Url) (h : Headers) : Headers :=
  match jar.header? u with
  | some line => Headers.orElse h "cookie" line
  | none => h

/-- The first request that a draft leads to. The address is read first, then headers, query and
body. -/
def Draft.request (d : Draft) (jar : Jar) : Except Fault Request := do
  let url ← addressOf d.url
  let headers ← d.headers.mapM fun (n, v) => header n v
  let query ← d.parameters.query
  let url ← match query with
    | none => pure url
    | some q => liftUrl (url.withQuery q)
  let (described, body) ← d.content.encode
  let headers := complete d.method url described (withCookies jar url headers)
  return { method := d.method, url, headers := authorize url headers, body, timeout := d.timeout }

end TestWorker.Web
