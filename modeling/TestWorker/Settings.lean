import TestWorker.Text.Letters

namespace TestWorker

inductive Logging where
  | off
  | on
  | cli
  | other (name : String)
  deriving DecidableEq, Repr

namespace Logging

def name : Logging → String
  | off => "off"
  | on => "on"
  | cli => "cli"
  | other n => n

def ofName : String → Logging
  | "off" => off
  | "on" => on
  | "cli" => cli
  | n => other n

def enabled : Logging → Bool
  | on | cli => true
  | _ => false

end Logging

structure Settings where
  secret : String
  key : String
  baseUrl : String
  context : Option String := none
  batchSize : Nat := 100
  /-- Milliseconds between cycles; none or zero for a single cycle. -/
  frequency : Option Int := none
  /-- Milliseconds in which cycles may start; none or zero for no end. -/
  maxTime : Option Int := none
  logging : Logging := .off
  ignoreSsl : Bool := false
  concurrency : Option Nat := none
  strict : Bool := false
  deriving DecidableEq, Repr

namespace Settings

def defaultBaseUrl : String := "https://rapidapi.com/testing"

/-- Seconds within which the coordinator has to answer. -/
def coordinatorTimeout : Nat := 15

def headers (s : Settings) : List (String × String) :=
  [("x-location-secret", s.secret), ("x-location-key", s.key)] ++
    match s.context with
    | some c => if c.isEmpty then [] else [("x-location-context", c)]
    | none => []

def oneShot (s : Settings) : Bool := s.frequency.getD 0 == 0

def dropSlashes (cs : List Char) : List Char := cs.dropWhile (· == '/')

/-- A base without slashes at its end. -/
def trimBase (url : String) : String := String.ofList (dropSlashes url.toList.reverse).reverse

/-- The base, one slash, and the path without the slashes it starts with. -/
def urlFor (base path : String) : String := base ++ "/" ++ String.ofList (dropSlashes path.toList)

def url (s : Settings) (path : String) : String := urlFor s.baseUrl path

/-- At most three characters of a secret are ever shown. -/
def mask (secret : String) : String := String.ofList (secret.toList.take 3) ++ "********"

end Settings
end TestWorker
