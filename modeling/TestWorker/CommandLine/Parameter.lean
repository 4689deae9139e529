import TestWorker.Settings
import TestWorker.Value

namespace TestWorker.CommandLine

inductive Domain where
  | text
  /-- A whole number that is not below a bound. -/
  | number (least : Int)
  | choice (names : List String)
  /-- Nothing; another name may turn it off. -/
  | switch (off : Option String)
  /-- Nothing; it is answered before anything else is looked at. -/
  | version
  | help
  deriving DecidableEq, Repr

namespace Domain

def takesValue : Domain → Bool
  | text | number _ | choice _ => true
  | _ => false

def eager : Domain → Bool
  | version | help => true
  | _ => false

end Domain

structure Parameter where
  key : String
  names : List String
  domain : Domain
  /-- Variables of the environment that stand in for the option, the first that is not empty. -/
  environment : List String := []
  default : Value := .null
  showDefault : Bool := false
  required : Bool := false
  help : String
  deriving Repr

namespace Parameter

def off? (p : Parameter) : Option String :=
  match p.domain with
  | .switch off => off
  | _ => none

def hint (p : Parameter) : String := " / ".intercalate (p.names.map fun n => "'" ++ n ++ "'")

def loggingNames : List String := [Logging.off, .on, .cli].map Logging.name

def all : List Parameter := [
  { key := "version", names := ["--version"], domain := .version
    help := "Show the version and exit." },
  { key := "url", names := ["-u", "--url"], domain := .text, environment := ["BASE_URL"]
    default := .text Settings.defaultBaseUrl, showDefault := true
    help := "The base URL to fetch executions from (env: BASE_URL)" },
  { key := "secret", names := ["-s", "--secret"], domain := .text
    environment := ["LOCATION_SECRET", "KEY"], required := true
    help := "Location secret for fetching executions (env: LOCATION_SECRET)" },
  { key := "key", names := ["-k", "--key"], domain := .text
    environment := ["LOCATION_KEY", "LOCATION"], required := true
    help := "Location key for fetching executions. Must match secret (env: LOCATION_KEY)" },
  { key := "context", names := ["-c", "--context"], domain := .text
    environment := ["LOCATION_CONTEXT"]
    help :=
      "API context (user or organization ID) for fetching executions (env: LOCATION_CONTEXT)" },
  { key := "frequency", names := ["-f", "--frequency"], domain := .number 0
    environment := ["FREQUENCY", "INTERVAL"]
    help :=
      "ms between fetching new executions. Without it the worker runs once (env: FREQUENCY)" },
  { key := "max_time", names := ["-m", "--max"], domain := .number 0
    environment := ["POLLING_TIME_MAX"]
    help := "Max ms to keep starting new cycles. Without it the worker polls until stopped" ++
      " (env: POLLING_TIME_MAX)" },
  { key := "batch", names := ["-b", "--batch"], domain := .number 1, environment := ["BATCH_SIZE"]
    default := .int 100, showDefault := true
    help := "Number of executions to process each cycle (env: BATCH_SIZE)" },
  { key := "logging", names := ["-l", "--logging"], domain := .choice loggingNames
    environment := ["WORKER_LOGGING"], default := .text Logging.off.name, showDefault := true
    help := "Logging level. 'cli' prints the settings at startup (env: WORKER_LOGGING)" },
  { key := "ignore_ssl", names := ["--ignore-ssl"], domain := .switch (some "--verify-ssl")
    environment := ["IGNORE_MISSING_SSL_CERT"], default := .bool false
    help := "Ignore a missing or self-signed SSL certificate from an API endpoint" ++
      " (env: IGNORE_MISSING_SSL_CERT)" },
  { key := "concurrency", names := ["--concurrency"], domain := .number 1
    environment := ["WORKER_CONCURRENCY"]
    help := "Cap on jobs running at once within a batch. Unbounded when unset" ++
      " (env: WORKER_CONCURRENCY)" },
  { key := "strict_placeholders", names := ["--strict-placeholders"]
    domain := .switch (some "--lenient-placeholders"), environment := ["STRICT_PLACEHOLDERS"]
    default := .bool false
    help :=
      "Fail a job when a \x7b\x7bplaceholder\x7d\x7d has no value instead of leaving it as text" },
  { key := "debug", names := ["--debug"], domain := .switch none, default := .bool false
    help := "Show stack traces for failed jobs" },
  { key := "help", names := ["--help"], domain := .help, help := "Show this message and exit." }]

end Parameter
end TestWorker.CommandLine
