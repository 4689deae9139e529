import TestWorker.Web.Draft

namespace TestWorker.Web

def redirectStatuses : List Nat := [301, 302, 303, 307, 308]

/-- Where a response sends its reader. -/
def Response.location? (r : Response) : Option String :=
  if redirectStatuses.contains r.status then r.headers.get? "location" else none

def redirectMethod (status : Nat) (method : String) : String :=
  if (status = 303 || status = 302) && method != "HEAD" then "GET"
  else if status = 301 && method == "POST" then "GET"
  else method

/-- An absolute location without a host is on the same host; a fragment is inherited. -/
def redirectUrl (current : Url) (location : String) : Except Fault Url := do
  let u ← (Url.parse location).mapError fun e =>
    .transport "RemoteProtocolError" ("Invalid URL in location header: " ++ e.message ++ ".")
  let u ← if !u.scheme.isEmpty && u.host.isEmpty then liftUrl (u.withHost current.host) else pure u
  let u ← if u.isAbsolute then pure u else liftUrl (current.join u)
  match current.fragment, u.fragment with
  | some f, none => if f.isEmpty then pure u else liftUrl (u.withFragment (some (unquote f)))
  | some f, some "" => if f.isEmpty then pure u else liftUrl (u.withFragment (some (unquote f)))
  | _, _ => pure u

def isUpgrade (u v : Url) : Bool :=
  u.hostName == v.hostName && u.scheme == "http" && u.portOrDefault == some 80 &&
    v.scheme == "https" && v.portOrDefault == some 443

/-- Another site does not get to see the credentials. -/
def redirectHeaders (r : Request) (url : Url) (method : String) : Headers :=
  let h := r.headers
  let h :=
    if url.sameOrigin r.url then h
    else
      let h := if isUpgrade r.url url then h else h.drop "authorization"
      h.put "host" url.netloc
  let h := if method != r.method && method == "GET"
    then (h.drop "content-length").drop "transfer-encoding" else h
  h.drop "cookie"

/-- The request that follows; a request turned into a GET loses its body. -/
def Request.redirected (r : Request) (status : Nat) (location : String) (jar : Jar) :
    Except Fault Request := do
  let method := redirectMethod status r.method
  let url ← redirectUrl r.url location
  let headers := withCookies jar url (redirectHeaders r url method)
  if method != r.method && method == "GET" then
    return { r with method, url, headers := complete method url [] headers, body := [] }
  else return { r with method, url, headers }

end TestWorker.Web
