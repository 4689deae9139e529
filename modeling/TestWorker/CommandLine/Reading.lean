import TestWorker.CommandLine.Parameter
import TestWorker.Number.Reading
import TestWorker.Text.Likeness
import TestWorker.Text.Quoted

namespace TestWorker.CommandLine

inductive Refusal where
  | unknown (name : String) (similar : List String)
  | needsValue (name : String)
  | takesNoValue (name : String)
  | missing (p : Parameter)
  | invalid (p : Parameter) (reason : String)
  | extra (words : List String)
  deriving Repr

namespace Refusal

def suggestion : List String → String
  | [] => ""
  | [name] => " Did you mean " ++ Text.quote name ++ "?"
  | names =>
    " (Possible options: " ++
      ", ".intercalate ((names.mergeSort fun a b => decide (a ≤ b)).map Text.quote) ++ ")"

def message : Refusal → String
  | unknown name similar => "No such option " ++ Text.quote name ++ "." ++ suggestion similar
  | needsValue name => "Option " ++ Text.quote name ++ " requires an argument."
  | takesNoValue name => "Option " ++ Text.quote name ++ " does not take a value."
  | missing p => "Missing option " ++ p.hint ++ "."
  | invalid p reason => "Invalid value for " ++ p.hint ++ ": " ++ reason
  | extra words =>
    "Got unexpected extra argument" ++ (if words.length = 1 then "" else "s") ++
      " (" ++ " ".intercalate words ++ ")"

/-- A name without its value, or with one it does not take, is told without the usage. -/
def showsUsage : Refusal → Bool
  | needsValue _ | takesNoValue _ => false
  | _ => true

end Refusal

inductive Given where
  | value (text : String)
  | switch (on : Bool)
  deriving DecidableEq, Repr

structure Scan where
  given : List (Parameter × Given) := []
  extra : List String := []
  /-- An option that takes the next word, by the name it was called. -/
  pending : Option (String × Parameter) := none
  /-- After two dashes no word is an option. -/
  literal : Bool := false
  deriving Repr

/-- Options by a name, with what a switch is set to under it. -/
def called (name : String) : Option (Parameter × Bool) :=
  Parameter.all.findSome? fun p =>
    if p.names.contains name then some (p, true)
    else if p.off? == some name then some (p, false)
    else none

def isShort (name : String) : Bool := name.length ≤ 2

def longNames : List String :=
  (Parameter.all.flatMap fun p => p.names ++ p.off?.toList).filter (!isShort ·)

def called? (short : Bool) (name : String) : Option (Parameter × Bool) :=
  if isShort name == short then called name else none

namespace Scan

def give (s : Scan) (p : Parameter) (g : Given) : Scan := { s with given := s.given ++ [(p, g)] }

/-- A name and what may be attached to it by an equals sign. -/
def cut (word : String) : String × Option String :=
  let cs := word.toList
  match cs.dropWhile (· != '=') with
  | [] => (word, none)
  | _ :: value => (String.ofList (cs.takeWhile (· != '=')), some (String.ofList value))

/-- One dash and letters: each is an option, and the rest of the word is the value of the first that
takes one. -/
def letters (s : Scan) : List Char → Except Refusal Scan
  | [] => .ok s
  | c :: cs =>
    let name := String.ofList ['-', c]
    match called? true name with
    | none => .error (.unknown name [])
    | some (p, on) =>
      if !p.domain.takesValue then letters (s.give p (.switch on)) cs
      else if cs.isEmpty then .ok { s with pending := some (name, p) }
      else .ok (s.give p (.value (String.ofList cs)))

def option (s : Scan) (word : String) : Except Refusal Scan :=
  let (name, value) := cut word
  match called? false name, value with
  | some (p, on), value =>
    match p.domain.takesValue, value with
    | true, some v => .ok (s.give p (.value v))
    | true, none => .ok { s with pending := some (name, p) }
    | false, some _ => .error (.takesNoValue name)
    | false, none => .ok (s.give p (.switch on))
  | none, _ =>
    if word.startsWith "--" then .error (.unknown name (Text.similar name longNames))
    else s.letters (word.toList.drop 1)

def word (s : Scan) (w : String) : Except Refusal Scan :=
  match s.pending with
  | some (_, p) => .ok ({ s with pending := none }.give p (.value w))
  | none =>
    if s.literal then .ok { s with extra := s.extra ++ [w] }
    else if w == "--" then .ok { s with literal := true }
    else if w.startsWith "-" && 1 < w.length then s.option w
    else .ok { s with extra := s.extra ++ [w] }

/-- All words in order; none may be missing at the end. -/
def ofWords (ws : List String) : Except Refusal Scan := do
  let s ← ws.foldlM word {}
  match s.pending with
  | some (name, _) => throw (.needsValue name)
  | none => return s

/-- The last that is given of an option. -/
def last (s : Scan) (p : Parameter) : Option Given :=
  ((s.given.filter fun (q, _) => q.key == p.key).getLast?).map (·.2)

/-- Options in the order in which they are looked at: those answered at once, those given, and the
others as they are listed. -/
def order (s : Scan) : List Parameter :=
  let given := (s.given.map (·.1)).foldl (fun ps p =>
    if ps.any (·.key == p.key) then ps else ps ++ [p]) []
  let others := Parameter.all.filter fun p => !given.any (·.key == p.key)
  let all := given ++ others
  all.filter (·.domain.eager) ++ all.filter (!·.domain.eager)

end Scan

def truths : List (String × Bool) := [
  ("", false), ("0", false), ("1", true), ("f", false), ("false", false),
  ("n", false), ("no", false),
  ("off", false), ("on", true), ("t", true), ("true", true), ("y", true), ("yes", true)]

def truth? (text : String) : Option Bool := truths.lookup (Text.lower (Text.strip text))

def numberLimit : Nat := 4300

def number? (text : String) : Option Int :=
  if numberLimit < (text.toList.filter fun c => (Text.decimalDigit? c).isSome).length then none
  else Number.int? text

namespace Parameter

def convert (p : Parameter) (text : String) : Except Refusal Value :=
  let refuse (reason : String) : Except Refusal Value := .error (.invalid p reason)
  match p.domain with
  | .text => .ok (.text text)
  | .number least =>
    match number? text with
    | none => refuse (Text.quote text ++ " is not a valid integer range.")
    | some n =>
      if n < least then refuse (toString n ++ " is not in the range x>=" ++ toString least ++ ".")
      else .ok (.int n)
  | .choice names =>
    if names.contains text then .ok (.text text)
    else refuse
      (Text.quote text ++ " is not one of " ++ ", ".intercalate (names.map Text.quote) ++ ".")
  | .switch _ | .version | .help =>
    match truth? text with
    | some b => .ok (.bool b)
    | none => refuse (Text.quote text ++ " is not a valid boolean. Recognized values: " ++
        ", ".intercalate (truths.map (·.1)))

/-- The text of the first variable that is set and not empty. -/
def fromEnvironment (p : Parameter) (env : String → Option String) : Option String :=
  p.environment.findSome? fun name => (env name).filter (!·.isEmpty)

/-- What is given, else what the environment says, else the default. -/
def value (p : Parameter) (s : Scan) (env : String → Option String) : Except Refusal Value :=
  match s.last p, p.fromEnvironment env with
  | some (.value text), _ => p.convert text
  | some (.switch on), _ => .ok (.bool on)
  | none, some text => p.convert text
  | none, none => if p.required then .error (.missing p) else .ok p.default

end Parameter
end TestWorker.CommandLine
