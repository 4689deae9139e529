import TestWorker.Agent
import TestWorker.CommandLine.Help
import TestWorker.CommandLine.Reading

namespace TestWorker

namespace CommandLine

def version : String := "0.1.0"

inductive Request where
  /-- Print something and end with a code. -/
  | leave (code : Nat) (lines : List Line)
  /-- Start a worker, once the lines are printed. -/
  | start (settings : Settings.Document) (console : Console) (lines : List Line)

def refusal (r : Refusal) : Request :=
  let head := if r.showsUsage then [usage, "Try '" ++ program ++ " --help' for help.", ""] else []
  .leave 2 ((head ++ ["Error: " ++ r.message]).map fun t => ⟨.err, t⟩)

/-- What is printed for an option that is answered at once. -/
def answer : Domain → Option (List String)
  | .version => some [program ++ ", version " ++ version]
  | .help => some overview
  | _ => none

/-- Values of the options in an order, up to one that is answered at once. -/
def collect (s : Scan) (env : String → Option String) :
    List Parameter → Except Refusal (Entries ⊕ List String)
  | [] => .ok (.inl [])
  | p :: ps => do
    match answer p.domain, s.last p with
    | some lines, some _ => return .inr lines
    | some _, none => collect s env ps
    | none, _ =>
      let v ← p.value s env
      match ← collect s env ps with
      | .inl es => return .inl ((p.key, v) :: es)
      | .inr lines => return .inr lines

def begin (values : Entries) : Request :=
  let get (key : String) : Value := (Entries.get? values key).getD .null
  match Settings.Document.ofOptions (Settings.Document.optionNames.map get) with
  | .error f => .leave 2 [⟨.err, "Error: Invalid value: " ++ f.message⟩]
  | .ok d =>
    let c : Console := ⟨d.logging, (get "debug").truthy⟩
    match c.banner d version with
    | .ok lines => .start d c lines
    | .error f => .leave 1 (c.fault f)

def read (args : List String) (env : String → Option String) : Request :=
  match Scan.ofWords args with
  | .error r => refusal r
  | .ok s =>
    match collect s env s.order with
    | .error r => refusal r
    | .ok (.inr lines) => .leave 0 (lines.map fun t => ⟨.out, t⟩)
    | .ok (.inl values) => if s.extra.isEmpty then begin values else refusal (.extra s.extra)

def interruption : String := "KeyboardInterrupt"

def broken (c : Console) (f : Fault) : Nat × List Line :=
  if f.kind == interruption then (130, c.info "\nWorker stopped by user") else (1, c.fault f)

end CommandLine
end TestWorker
