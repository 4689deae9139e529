import TestWorker.Fault
import TestWorker.Settings.Document

namespace TestWorker

inductive Stream where
  | out
  | err
  deriving DecidableEq, Repr

/-- A printed text; the line break after it is not part of it. -/
structure Line where
  stream : Stream
  text : String
  deriving DecidableEq, Repr

def transcript (s : Stream) (lines : List Line) : String :=
  String.join ((lines.filter (·.stream == s)).map (·.text ++ "\n"))

structure Console where
  logging : Logging := .off
  debug : Bool := false
  deriving DecidableEq, Repr

namespace Console

def enabled (c : Console) : Bool := c.logging.enabled

def progress (c : Console) (text : String) : List Line := if c.enabled then [⟨.out, text⟩] else []

def banner (c : Console) (d : Settings.Document) (version : String) : Except Fault (List Line) := do
  if c.logging != .cli then return []
  let shown (name : String) : String := (d.get name).display
  let cap := d.get "concurrency"
  return [
    "\nWORKER STARTED (version " ++ version ++ ")",
    "Base URL <url>: " ++ shown "base_url",
    "Location secret <secret>: " ++ (← d.masked),
    "Location key <key>: " ++ shown "location_key",
    "Context (user or organization ID) <context>: " ++ shown "location_context",
    "Polling frequency in ms <frequency>: " ++ shown "frequency",
    "Maximum polling time in ms <max>: " ++ shown "max_time",
    "Jobs to dequeue per cycle <batch>: " ++ shown "batch_size",
    "Concurrency cap <concurrency>: " ++ (if cap.truthy then cap.display else "unbounded"),
    "Ignore missing SSL certificates: " ++ shown "ignore_ssl",
    ""].map fun t => ⟨.out, t⟩

def cycleStarted (c : Console) (n : Nat) : List Line :=
  c.progress ("\nCYCLE STARTED: " ++ toString n)

def fetching (c : Console) (what url : String) : List Line :=
  c.progress ("Fetching " ++ what ++ " from " ++ url)

def batchExecuted (c : Console) (what : String) (count : Nat) : List Line :=
  c.progress ("Executed " ++ toString count ++ " " ++ what)

def jobResult (c : Console) (what id : String) (success : Bool) (time : Option Double) :
    List Line :=
  let status := if success then "success" else "failed"
  let duration := match time with
    | some t => " (" ++ t.onePlace ++ "ms)"
    | none => ""
  c.progress (Text.upper what ++ " " ++ id ++ ": " ++ status ++ duration)

def info (c : Console) (text : String) : List Line := c.progress text

def errLine (text : String) : Line := ⟨.err, text⟩

def error (title message : String) (details : List String := []) (suggestion : String := "") :
    List Line :=
  [errLine ("\nERROR: " ++ title), errLine message] ++ details.map (fun d => errLine ("  " ++ d)) ++
    if suggestion.isEmpty then [] else [errLine ("\n" ++ suggestion)]

/-- Outside debugging a fault is its message alone. -/
def fault (c : Console) (f : Fault) : List Line :=
  if c.debug then [errLine (if f.message.isEmpty then f.kind else f.kind ++ ": " ++ f.message)]
  else [errLine ("Error: " ++ f.message)]

def debugging (c : Console) (text : String) : List Line :=
  if c.debug then [errLine ("[DEBUG] " ++ text)] else []

def duration : Value → Except Fault (Option Double)
  | .null => .ok none
  | .float x => .ok (some x)
  | .int n => .ok (some (.ofInt n))
  | .bool b => .ok (some (.ofNat b.toNat))
  | .text _ => .error (.badValue "Unknown format code 'f' for object of type 'str'")
  | v =>
    .error (.wrongKind ("unsupported format string passed to " ++ v.qualifiedKind ++ ".__format__"))

end Console
end TestWorker
