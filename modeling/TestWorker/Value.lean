import TestWorker.Number.Decimal
import TestWorker.Text.Quoted

namespace TestWorker

inductive Value where
  | null
  | bool (b : Bool)
  | int (n : Int)
  | float (x : Double)
  | text (s : String)
  | bytes (bs : List UInt8)
  | decimal (written : String)
  | date (written : String)
  | tuple (items : List Value)
  | list (items : List Value)
  | object (entries : List (String × Value))
  deriving Repr

abbrev Entries := List (String × Value)

namespace Entries

def get? (es : List (String × α)) (key : String) : Option α := es.lookup key

def contains (es : List (String × α)) (key : String) : Bool := es.any (·.1 == key)

/-- Keeps the place of a key that is there already, and adds a new one at the end. -/
def put : List (String × α) → String → α → List (String × α)
  | [], key, v => [(key, v)]
  | (k, w) :: r, key, v => if k == key then (k, v) :: r else (k, w) :: put r key v

/-- The later entries win, the earlier ones keep their places. -/
def merge (es fs : List (String × α)) : List (String × α) :=
  fs.foldl (fun es (k, v) => put es k v) es

/-- Each key once, with its first place and its last value. -/
def ofList (es : List (String × α)) : List (String × α) := merge [] es

end Entries

namespace Value

def kind : Value → String
  | null => "NoneType"
  | bool _ => "bool"
  | int _ => "int"
  | float _ => "float"
  | text _ => "str"
  | bytes _ => "bytes"
  | decimal _ => "Decimal"
  | date _ => "date"
  | tuple _ => "tuple"
  | list _ => "list"
  | object _ => "dict"

def qualifiedKind : Value → String
  | decimal _ => "decimal.Decimal"
  | date _ => "datetime.date"
  | v => v.kind

/-- A decimal text as sign, digits and power of ten; nothing for the special ones. -/
def readDecimal? (written : String) : Option (Bool × Nat × Int) :=
  let cs := written.toList
  let (neg, cs) := match cs with
    | '-' :: r => (true, r)
    | '+' :: r => (false, r)
    | r => (false, r)
  let plain (c : Char) : Bool := c != 'E' && c != 'e'
  let (mantissa, exponent) := (cs.takeWhile plain, cs.dropWhile plain)
  let whole := mantissa.takeWhile (· != '.')
  let fraction := (mantissa.dropWhile (· != '.')).drop 1
  let x : Option Int := match exponent.drop 1 with
    | [] => some 0
    | '-' :: r => if r.all Char.isDigit then some (-(ofDigits r : Int)) else none
    | '+' :: r => if r.all Char.isDigit then some (ofDigits r) else none
    | r => if r.all Char.isDigit then some (ofDigits r) else none
  let all := whole ++ fraction
  if all.isEmpty || !all.all Char.isDigit then none
  else x.map fun x => (neg, ofDigits all, x - fraction.length)

def truthy : Value → Bool
  | null => false
  | bool b => b
  | int n => n != 0
  | float x => !x.isZero
  | text s => !s.isEmpty
  | bytes bs => !bs.isEmpty
  | decimal w => match readDecimal? w with
    | some (_, n, _) => n != 0
    | none => true
  | date _ => true
  | tuple vs => !vs.isEmpty
  | list vs => !vs.isEmpty
  | object es => !es.isEmpty

def isNull : Value → Bool
  | null => true
  | _ => false

/-- A year, month and day without leading zeros. -/
def dateParts (written : String) : String :=
  let parts := Text.splitChars (· == '-') written.toList
  ", ".intercalate (parts.map fun p => toString (ofDigits p))

mutual

def literal : Value → String
  | null => "None"
  | bool b => if b then "True" else "False"
  | int n => toString n
  | float x => x.text
  | text s => Text.quote s
  | bytes bs => Text.quoteBytes bs
  | decimal w => "Decimal('" ++ w ++ "')"
  | date w => "datetime.date(" ++ dateParts w ++ ")"
  | tuple [v] => "(" ++ literal v ++ ",)"
  | tuple vs => "(" ++ ", ".intercalate (literals vs) ++ ")"
  | list vs => "[" ++ ", ".intercalate (literals vs) ++ "]"
  | object es => "\x7b" ++ ", ".intercalate (entryLiterals es) ++ "\x7d"

def literals : List Value → List String
  | [] => []
  | v :: vs => literal v :: literals vs

def entryLiterals : List (String × Value) → List String
  | [] => []
  | (k, v) :: es => (Text.quote k ++ ": " ++ literal v) :: entryLiterals es

end

/-- A text is shown as it is, everything else by its literal, decimals and dates bare. -/
def display : Value → String
  | text s => s
  | decimal w => w
  | date w => w
  | v => literal v

/-- Why there is no literal of a value. -/
inductive Excess where
  | digits
  | nesting
  deriving DecidableEq, Repr

/-- The most digits that an integer is written with. -/
def digitLimit : Nat := 4300

/-- How many values may stand in one another where one is written. -/
def nestingLimit : Nat := 1000

mutual

/-- What is met first in a value that cannot be written, with room for so many values inside it. -/
def excess? (room : Nat) : Value → Option Excess
  | int n => if n.natAbs < 10 ^ digitLimit then none else some .digits
  | tuple vs | list vs => itemExcess? room vs
  | object es => entryExcess? room es
  | _ => none

def itemExcess? (room : Nat) : List Value → Option Excess
  | [] => none
  | v :: vs => match room with
    | 0 => some .nesting
    | n + 1 => (excess? n v).or (itemExcess? room vs)

def entryExcess? (room : Nat) : List (String × Value) → Option Excess
  | [] => none
  | (_, v) :: es => match room with
    | 0 => some .nesting
    | n + 1 => (excess? n v).or (entryExcess? room es)

end

def number? : Value → Option Rat
  | bool b => some (if b then 1 else 0)
  | int n => some n
  | float x => x.toRat?
  | decimal w => (readDecimal? w).map fun (neg, n, x) =>
    let q : Rat := mkRat (n * wholePower 10 x : Nat) (wholePower 10 (-x))
    if neg then -q else q
  | _ => none

mutual

/-- A value inside which there is nothing that can change may serve as a key. -/
def unhashable? : Value → Option String
  | list _ => some "list"
  | object _ => some "dict"
  | tuple vs => firstUnhashable? vs
  | _ => none

def firstUnhashable? : List Value → Option String
  | [] => none
  | v :: vs => match unhashable? v with
    | some k => some k
    | none => firstUnhashable? vs

end

mutual

/-- Whether two keys are one: numbers by value whatever their kind, the rest by kind and content. -/
def sameKey : Value → Value → Bool
  | null, null => true
  | text s, text t => s == t
  | bytes s, bytes t => s == t
  | date s, date t => s == t
  | tuple vs, tuple ws => sameKeys vs ws
  | float (.infinite s), float (.infinite t) => s == t
  | v, w => match number? v, number? w with
    | some p, some q => p == q
    | _, _ => false

def sameKeys : List Value → List Value → Bool
  | [], [] => true
  | v :: vs, w :: ws => sameKey v w && sameKeys vs ws
  | _, _ => false

end

end Value
end TestWorker
