import TestWorker.Json.Reader
import TestWorker.Json.Writer

namespace TestWorker

inductive Misconfiguration where
  | unknownAction (name : Value)
  | unknownDialect (dialect : Value)
  deriving Repr

inductive PairFlaw where
  | notSequence (index : Nat)
  | wrongLength (index length : Nat)
  deriving DecidableEq, Repr

inductive Fault where
  /-- Raised by the surroundings, with or without a message. -/
  | raised (kind : String) (message : Option String)
  /-- No answer came over the wire. -/
  | transport (kind message : String)
  /-- Refused by the database layer. -/
  | database (kind message : String)
  | invalidUrl (message : String)
  | unresolved (key : String)
  | coordinator (message : String)
  | misconfigured (reason : Misconfiguration)
  /-- A document does not fit its schema. -/
  | invalid (report : String)
  | notJson (reason : Json.Refusal)
  | notAscii (text : String)
  | unhashable (kind : String)
  /-- A map has nothing under the key. -/
  | missingKey (key : Value)
  /-- A sequence has nothing at the place. -/
  | outOfRange (message : String)
  | noOperation (kind operation : String)
  | notIterable (kind : String)
  | notMapping (kind : String)
  | badPair (flaw : PairFlaw)
  /-- A value of a kind that the operation does not take. -/
  | wrongKind (message : String)
  /-- A value that the operation cannot use. -/
  | badValue (message : String)
  | overflow (message : String)
  | undecodable (message : String)
  | badEncoding (message : String)
  /-- A value of which there is no text. -/
  | unwritable (excess : Value.Excess)
  deriving Repr

/-- The run of characters outside ASCII that starts at the first of them. -/
def nonAsciiRun (s : String) : Nat × List Char :=
  let cs := s.toList
  ((cs.takeWhile Text.isAscii).length, (cs.dropWhile Text.isAscii).takeWhile (!Text.isAscii ·))

namespace Misconfiguration

def knownActions : List String :=
  ["Database.query", "Faker.generate", "Http.delete", "Http.get", "Http.head", "Http.options",
    "Http.patch", "Http.post", "Http.put", "Http.request"]

def knownDialects : List String := ["mssql", "mysql", "postgresql", "sqlite"]

def message : Misconfiguration → String
  | unknownAction name => "Unknown action " ++ name.literal ++ ". Known actions: " ++
      (Value.list (knownActions.map .text)).literal
  | unknownDialect d => "Unknown database dialect " ++ d.literal ++ ". Known dialects: " ++
      (Value.list (knownDialects.map .text)).literal

end Misconfiguration

namespace Fault

def kind : Fault → String
  | raised k _ => k
  | transport k _ => k
  | database k _ => k
  | invalidUrl _ => "InvalidURL"
  | unresolved _ => "UnresolvedPlaceholderError"
  | coordinator _ => "APIError"
  | misconfigured _ => "ConfigurationError"
  | invalid _ => "ValidationError"
  | notJson .notFinite => "ValueError"
  | notJson (.noForm _) => "TypeError"
  | notAscii _ => "UnicodeEncodeError"
  | unhashable _ => "TypeError"
  | missingKey _ => "KeyError"
  | outOfRange _ => "IndexError"
  | noOperation .. => "AttributeError"
  | notIterable _ => "TypeError"
  | notMapping _ => "TypeError"
  | badPair (.notSequence _) => "TypeError"
  | badPair (.wrongLength ..) => "ValueError"
  | wrongKind _ => "TypeError"
  | badValue _ => "ValueError"
  | overflow _ => "OverflowError"
  | undecodable _ => "UnicodeDecodeError"
  | badEncoding _ => "UnicodeError"
  | unwritable .digits => "ValueError"
  | unwritable .nesting => "RecursionError"

/-- How an escaped character outside ASCII is shown. -/
def charEscape (c : Char) : String :=
  let n := c.toNat
  String.ofList <|
    if n < 0x100 then '\\' :: 'x' :: Text.hex 2 n
    else if n < 0x10000 then '\\' :: 'u' :: Text.hex 4 n
    else '\\' :: 'U' :: Text.hex 8 n

/-- One character is shown, several are counted. -/
def notAsciiMessage (s : String) : String :=
  let (start, run) := nonAsciiRun s
  let what := match run with
    | [c] => "character '" ++ charEscape c ++ "' in position " ++ toString start
    | cs => "characters in position " ++ toString start ++ "-" ++ toString (start + cs.length - 1)
  "'ascii' codec can't encode " ++ what ++ ": ordinal not in range(128)"

def message : Fault → String
  | raised k m =>
    match m with
    | none => ""
    | some m => if k == "KeyError" then Text.quote m else m
  | transport _ m | database _ m | invalidUrl m | coordinator m | invalid m => m
  | unresolved key => "Unresolved placeholder '\x7b\x7b" ++ key ++ "\x7d\x7d'"
  | misconfigured r => r.message
  | notJson r => r.message
  | notAscii s => notAsciiMessage s
  | unhashable k => "unhashable type: '" ++ k ++ "'"
  | missingKey k => k.literal
  | outOfRange m => m
  | noOperation k op => "'" ++ k ++ "' object has no attribute '" ++ op ++ "'"
  | notIterable k => "'" ++ k ++ "' object is not iterable"
  | notMapping k => "'" ++ k ++ "' object is not a mapping"
  | badPair (.notSequence i) =>
    "cannot convert dictionary update sequence element #" ++ toString i ++ " to a sequence"
  | badPair (.wrongLength i n) =>
    "dictionary update sequence element #" ++ toString i ++ " has length " ++ toString n ++
      "; 2 is required"
  | wrongKind m | badValue m | overflow m | undecodable m | badEncoding m => m
  | unwritable .digits =>
    "Exceeds the limit (" ++ toString Value.digitLimit ++ " digits) for integer " ++
      "string conversion; use sys.set_int_max_str_digits() to increase the limit"
  | unwritable .nesting => "maximum recursion depth exceeded while getting the repr of an object"

/-- The fault as a literal: its class applied to what it was raised with. -/
def literal : Fault → String
  | raised k none => k ++ "()"
  | raised k (some m) => k ++ "(" ++ Text.quote m ++ ")"
  | missingKey k => "KeyError(" ++ k.literal ++ ")"
  | unresolved key => "UnresolvedPlaceholderError(" ++ Text.quote key ++ ")"
  | notAscii s =>
    let (start, run) := nonAsciiRun s
    "UnicodeEncodeError('ascii', " ++ Text.quote s ++ ", " ++ toString start ++ ", " ++
      toString (start + run.length) ++ ", 'ordinal not in range(128)')"
  | f => f.kind ++ "(" ++ Text.quote f.message ++ ")"

/-- The fault as the caller of a coroutine gets it: the end of an iteration cannot leave one as
such. -/
def leaving : Fault → Fault
  | raised k m =>
    if k == "StopIteration" then raised "RuntimeError" (some "coroutine raised StopIteration")
    else raised k m
  | f => f

end Fault

/-- A value in a text that is made for readers. -/
def Value.formatted (v : Value) : Except Fault String :=
  match v.excess? nestingLimit with
  | some e => .error (.unwritable e)
  | none => .ok v.display

end TestWorker
