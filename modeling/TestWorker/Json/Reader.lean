import TestWorker.Value
import TestWorker.Text.Encoding

namespace TestWorker.Json

inductive Flaw where
  | expectedValue
  | expectedName
  | expectedColon
  | expectedComma
  | extraData
  | unterminated
  | controlCharacter
  | badEscape
  | badUnicode
  | tooManyDigits (count : Nat)
  deriving DecidableEq, Repr

def Flaw.text : Flaw → String
  | expectedValue => "Expecting value"
  | expectedName => "Expecting property name enclosed in double quotes"
  | expectedColon => "Expecting ':' delimiter"
  | expectedComma => "Expecting ',' delimiter"
  | extraData => "Extra data"
  | unterminated => "Unterminated string starting at"
  | controlCharacter => "Invalid control character at"
  | badEscape => "Invalid \\escape"
  | badUnicode => "Invalid \\uXXXX escape"
  | tooManyDigits n =>
    "Exceeds the limit (4300 digits) for integer string conversion: value has " ++
      toString n ++ " digits; use sys.set_int_max_str_digits() to increase the limit"

/-- A flaw and how many characters were left where it was found. -/
structure Stop where
  flaw : Flaw
  left : Nat
  deriving DecidableEq, Repr

def isBlank (c : Char) : Bool := c == ' ' || c == '\t' || c == '\n' || c == '\r'

def skipBlank (cs : List Char) : List Char := cs.dropWhile isBlank

def stop (flaw : Flaw) (rest : List Char) : Except Stop α := .error ⟨flaw, rest.length⟩

def hexValue? (c : Char) : Option Nat :=
  if c.isDigit then some (c.toNat - 48)
  else if 'a' ≤ c ∧ c ≤ 'f' then some (c.toNat - 87)
  else if 'A' ≤ c ∧ c ≤ 'F' then some (c.toNat - 55)
  else none

def hex4? (a b c d : Char) : Option Nat := do
  return (((← hexValue? a) * 16 + (← hexValue? b)) * 16 + (← hexValue? c)) * 16 + (← hexValue? d)

def escaped? : Char → Option Char
  | '"' => some '"'
  | '\\' => some '\\'
  | '/' => some '/'
  | 'b' => some (Char.ofNat 8)
  | 'f' => some (Char.ofNat 12)
  | 'n' => some '\n'
  | 'r' => some '\r'
  | 't' => some '\t'
  | _ => none

/-- The code units of a string whose opening quote had `opened` characters from it on. -/
def units (opened : Nat) : List Char → Except Stop (List Nat × List Char)
  | [] => .error ⟨.unterminated, opened⟩
  | '"' :: rest => .ok ([], rest)
  | '\\' :: [] => .error ⟨.unterminated, opened⟩
  | '\\' :: 'u' :: a :: b :: c :: d :: rest =>
    match hex4? a b c d, rest with
    | some n, _ :: _ => do
      let (ns, rest) ← units opened rest
      return (n :: ns, rest)
    | _, _ => .error ⟨.badUnicode, rest.length + 5⟩
  | '\\' :: 'u' :: short => .error ⟨.badUnicode, short.length + 1⟩
  | '\\' :: c :: rest =>
    match escaped? c with
    | some e => do
      let (ns, rest) ← units opened rest
      return (e.toNat :: ns, rest)
    | none => .error ⟨.badEscape, rest.length + 2⟩
  | c :: rest =>
    if c.toNat < 32 then .error ⟨.controlCharacter, rest.length + 1⟩
    else do
      let (ns, rest) ← units opened rest
      return (c.toNat :: ns, rest)

/-- Pairs of surrogates make one character; a lone one has none and is replaced. -/
def joinUnits : List Nat → List Char
  | [] => []
  | [u] => [if Text.isHigh u || Text.isLow u then Text.replacement else Char.ofNat u]
  | u :: v :: rest =>
    if Text.isHigh u && Text.isLow v then Text.joinSurrogates u v :: joinUnits rest
    else (if Text.isHigh u || Text.isLow u then Text.replacement else Char.ofNat u)
      :: joinUnits (v :: rest)

def stringRest (rest : List Char) : Except Stop (String × List Char) := do
  let (ns, rest) ← units (rest.length + 1) rest
  return (String.ofList (joinUnits ns), rest)

def literals : List (List Char × Value) := [
  ("null".toList, .null), ("true".toList, .bool true), ("false".toList, .bool false),
  ("NaN".toList, .float .nan), ("Infinity".toList, .float (.infinite false)),
  ("-Infinity".toList, .float (.infinite true))]

def fraction (cs : List Char) : List Char × List Char :=
  match cs with
  | '.' :: rest =>
    let ds := rest.takeWhile Char.isDigit
    if ds.isEmpty then ([], cs) else (ds, rest.dropWhile Char.isDigit)
  | _ => ([], cs)

def power? (cs : List Char) : Option (Int × List Char) :=
  match cs with
  | e :: rest =>
    if e != 'e' && e != 'E' then none
    else
      let (neg, body) := match rest with
        | '-' :: r => (true, r)
        | '+' :: r => (false, r)
        | r => (false, r)
      let ds := body.takeWhile Char.isDigit
      if ds.isEmpty then none
      else
        let n : Int := ofDigits ds
        some (if neg then -n else n, body.dropWhile Char.isDigit)
  | [] => none

/-- A whole number has no superfluous zero in front. -/
def numeral (cs : List Char) : Except Stop (Value × List Char) :=
  let (neg, body) := match cs with
    | '-' :: r => (true, r)
    | r => (false, r)
  let whole := match body with
    | '0' :: _ => ['0']
    | r => r.takeWhile Char.isDigit
  if whole.isEmpty then stop .expectedValue cs
  else
    let rest := body.drop whole.length
    let (ds, rest) := fraction rest
    match ds, power? rest with
    | [], none =>
      if 4300 < whole.length then stop (.tooManyDigits whole.length) cs
      else
        let n : Int := ofDigits whole
        .ok (.int (if neg then -n else n), rest)
    | _, p =>
      let (x, rest) := p.getD (0, rest)
      .ok (.float (.ofDecimal neg (ofDigits (whole ++ ds)) (x - ds.length)), rest)

def simple (cs : List Char) : Except Stop (Value × List Char) :=
  match literals.find? fun (w, _) => w.isPrefixOf cs with
  | some (w, v) => .ok (v, cs.drop w.length)
  | none => numeral cs

mutual

/-- One value; each step down uses up one of `fuel`, and no text nests deeper than it is long. -/
def value (fuel : Nat) (cs : List Char) : Except Stop (Value × List Char) :=
  match fuel, cs with
  | _ + 1, '"' :: rest => do
    let (s, rest) ← stringRest rest
    return (.text s, rest)
  | fuel + 1, '[' :: rest =>
    match skipBlank rest with
    | ']' :: rest => .ok (.list [], rest)
    | rest => do
      let (vs, rest) ← items fuel rest
      return (.list vs, rest)
  | fuel + 1, '\x7b' :: rest =>
    match skipBlank rest with
    | '\x7d' :: rest => .ok (.object [], rest)
    | rest => do
      let (es, rest) ← entries fuel rest
      return (.object (Entries.ofList es), rest)
  | _, cs => simple cs

def items (fuel : Nat) (cs : List Char) : Except Stop ((List Value) × List Char) :=
  match fuel with
  | 0 => stop .expectedValue cs
  | fuel + 1 => do
    let (v, rest) ← value fuel cs
    match skipBlank rest with
    | ']' :: rest => return ([v], rest)
    | ',' :: rest =>
      let (vs, rest) ← items fuel (skipBlank rest)
      return (v :: vs, rest)
    | rest => stop .expectedComma rest

def entries (fuel : Nat) (cs : List Char) : Except Stop ((List (String × Value)) × List Char) :=
  match fuel, cs with
  | fuel + 1, '"' :: rest => do
    let (k, rest) ← stringRest rest
    match skipBlank rest with
    | ':' :: rest =>
      let (v, rest) ← value fuel (skipBlank rest)
      match skipBlank rest with
      | '\x7d' :: rest => return ([(k, v)], rest)
      | ',' :: rest =>
        let (es, rest) ← entries fuel (skipBlank rest)
        return ((k, v) :: es, rest)
      | rest => stop .expectedComma rest
    | rest => stop .expectedColon rest
  | _, cs => stop .expectedName cs

end

def document (cs : List Char) : Except Stop Value := do
  let (v, rest) ← value (cs.length + 1) (skipBlank cs)
  match skipBlank rest with
  | [] => return v
  | rest => stop .extraData rest

/-- Why a text is no JSON, with the place counted in characters. -/
structure Misread where
  flaw : Flaw
  line : Nat
  column : Nat
  offset : Nat
  deriving DecidableEq, Repr

def Misread.message (m : Misread) : String :=
  match m.flaw with
  | .tooManyDigits _ => m.flaw.text
  | _ => m.flaw.text ++ ": line " ++ toString m.line ++ " column " ++ toString m.column ++
      " (char " ++ toString m.offset ++ ")"

def Misread.ofStop (cs : List Char) (s : Stop) : Misread :=
  let before := cs.take (cs.length - s.left)
  let line := before.reverse.takeWhile (· != '\n')
  ⟨s.flaw, before.count '\n' + 1, line.length + 1, before.length⟩

def read (s : String) : Except Misread Value :=
  (document s.toList).mapError (Misread.ofStop s.toList)

/-- The encoding of JSON bytes, told from their first ones, and the length of a mark before the
text. -/
def detect (bytes : Text.Bytes) : Text.Encoding × Nat :=
  match bytes with
  | 0xFF :: 0xFE :: 0 :: 0 :: _ => (.utf32 .little, 4)
  | 0 :: 0 :: 0xFE :: 0xFF :: _ => (.utf32 .big, 4)
  | 0xFF :: 0xFE :: _ => (.utf16 .little, 2)
  | 0xFE :: 0xFF :: _ => (.utf16 .big, 2)
  | 0xEF :: 0xBB :: 0xBF :: _ => (.utf8, 3)
  | a :: b :: c :: d :: _ =>
    if a = 0 then (if b = 0 then .utf32 .big else .utf16 .big, 0)
    else if b = 0 then (if c = 0 && d = 0 then .utf32 .little else .utf16 .little, 0)
    else (.utf8, 0)
  | [a, b] =>
    if a = 0 then (.utf16 .big, 0)
    else if b = 0 then (.utf16 .little, 0)
    else (.utf8, 0)
  | _ => (.utf8, 0)

inductive BytesError where
  | encoding (e : Text.DecodeError)
  | text (m : Misread)
  deriving Repr

def BytesError.message : BytesError → String
  | encoding e => e.message
  | text m => m.message

def readBytes (bytes : Text.Bytes) : Except BytesError Value :=
  let (e, mark) := detect bytes
  match e.decodeAfter mark bytes with
  | .error e => .error (.encoding e)
  | .ok s => (read s).mapError .text

end TestWorker.Json
