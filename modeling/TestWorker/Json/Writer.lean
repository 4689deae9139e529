import TestWorker.Value

namespace TestWorker.Json

/-- What stands between items, and between a key and its value. -/
structure Layout where
  item : String
  colon : String

def spaced : Layout := ⟨", ", ": "⟩
def compact : Layout := ⟨",", ":"⟩

def escape (c : Char) : List Char :=
  if c == '"' || c == '\\' then ['\\', c]
  else if c == '\n' then ['\\', 'n']
  else if c == '\r' then ['\\', 'r']
  else if c == '\t' then ['\\', 't']
  else if c.toNat = 8 then ['\\', 'b']
  else if c.toNat = 12 then ['\\', 'f']
  else if c.toNat < 32 then '\\' :: 'u' :: Text.hex 4 c.toNat
  else [c]

def string (s : String) : String := String.ofList ('"' :: s.toList.flatMap escape ++ ['"'])

def number : Double → String
  | .nan => "NaN"
  | .infinite s => if s then "-Infinity" else "Infinity"
  | x => x.text

mutual

/-- Every value has a text: a tuple is an array, and what JSON does not have is the string of its
display. -/
def text (l : Layout) : Value → String
  | .null => "null"
  | .bool b => if b then "true" else "false"
  | .int n => toString n
  | .float x => number x
  | .text s => string s
  | .tuple vs | .list vs => "[" ++ l.item.intercalate (texts l vs) ++ "]"
  | .object es => "\x7b" ++ l.item.intercalate (entryTexts l es) ++ "\x7d"
  | v => string v.display

def texts (l : Layout) : List Value → List String
  | [] => []
  | v :: vs => text l v :: texts l vs

def entryTexts (l : Layout) : List (String × Value) → List String
  | [] => []
  | (k, v) :: es => (string k ++ l.colon ++ text l v) :: entryTexts l es

end

inductive Refusal where
  | notFinite
  | noForm (kind : String)
  deriving DecidableEq, Repr

def Refusal.message : Refusal → String
  | .notFinite => "Out of range float values are not JSON compliant"
  | .noForm kind => "Object of type " ++ kind ++ " is not JSON serializable"

mutual

/-- The first part of a value, in document order, that strict JSON cannot say. -/
def refusal? : Value → Option Refusal
  | .float x => if x.isFinite then none else some .notFinite
  | .bytes _ => some (.noForm "bytes")
  | .decimal _ => some (.noForm "Decimal")
  | .date _ => some (.noForm "date")
  | .tuple vs | .list vs => refusals? vs
  | .object es => entryRefusals? es
  | _ => none

def refusals? : List Value → Option Refusal
  | [] => none
  | v :: vs => (refusal? v).orElse fun _ => refusals? vs

def entryRefusals? : List (String × Value) → Option Refusal
  | [] => none
  | (_, v) :: es => (refusal? v).orElse fun _ => entryRefusals? es

end

def strict (v : Value) : Except Refusal String :=
  match refusal? v with
  | some r => .error r
  | none => .ok (text compact v)

end TestWorker.Json
