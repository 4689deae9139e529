import TestWorker.Activity

namespace TestWorker.Web

structure Client where
  /-- Nothing for a client that keeps no cookies. -/
  session : Option Session
  follows : Bool
  deriving DecidableEq, Repr

structure Profile where
  verify : Bool
  follows : Bool
  /-- Seconds that an answer may take, unless the request itself sets a limit. -/
  timeout : Option Double
  deriving Repr

namespace Client

def jar (c : Client) : Attempt Jar :=
  match c.session with
  | some s => Attempt.perform (.cookies s)
  | none => pure []

/-- The cookies that come with a response stay with the session. -/
def keep (c : Client) (url : Url) (response : Response) : Attempt Unit :=
  match c.session, response.headers.values "set-cookie" with
  | some s, line :: lines => Attempt.perform (.remember s url (line :: lines))
  | _, _ => pure ()

def exchange (c : Client) (r : Request) : Attempt Response := do
  let response ← Attempt.ofExcept (← Attempt.perform (.exchange r))
  c.keep r.url response
  return response

def maxRedirects : Nat := 20

def tooManyRedirects : Fault := .transport "TooManyRedirects" "Exceeded maximum allowed redirects."

/-- Sends a request and at most `left` minus one more. A location is read even where it is not
followed. -/
def follow (c : Client) : Nat → Request → Attempt Response
  | 0, _ => throw tooManyRedirects
  | left + 1, r => do
    let response ← c.exchange r
    match response.location? with
    | none => return response
    | some location =>
      let next ← Attempt.ofExcept (r.redirected response.status location (← c.jar))
      if c.follows then c.follow left next else return response

def send (c : Client) (d : Draft) : Attempt Response := do
  let r ← Attempt.ofExcept (d.request (← c.jar))
  c.follow (maxRedirects + 1) r

end Client
end TestWorker.Web
