import TestWorker.Number.Decimal
import TestWorker.Text.Letters

namespace TestWorker.Number

/-- Digits as plain ones; any other character outside ASCII spoils the text. -/
def plain (c : Char) : Char :=
  if Text.isBlank c then ' '
  else match Text.decimalDigit? c with
    | some d => Char.ofNat (48 + d)
    | none => if Text.isAscii c then c else '?'

def trimmed (s : String) : List Char := Text.stripChars (· == ' ') (s.toList.map plain)

/-- A run of digits, with single underscores inside, and what follows. -/
def digitRun : List Char → List Char × List Char
  | [] => ([], [])
  | c :: rest =>
    if c.isDigit then
      let (ds, tail) := digitRun rest
      (c :: ds, tail)
    else if c == '_' then
      match rest with
      | d :: _ =>
        if d.isDigit then
          let (ds, tail) := digitRun rest
          if ds.isEmpty then ([], c :: rest) else (ds, tail)
        else ([], c :: rest)
      | [] => ([], [c])
    else ([], c :: rest)

/-- An underscore may not lead. -/
def digitsFirst (cs : List Char) : List Char × List Char :=
  match cs with
  | '_' :: _ => ([], cs)
  | _ => digitRun cs

def signed (cs : List Char) : Bool × List Char :=
  match cs with
  | '-' :: r => (true, r)
  | '+' :: r => (false, r)
  | r => (false, r)

def intDigits? (s : String) : Option (Bool × List Char) :=
  let (neg, body) := signed (trimmed s)
  let (ds, rest) := digitsFirst body
  if ds.isEmpty || !rest.isEmpty then none else some (neg, ds)

def int? (s : String) : Option Int :=
  (intDigits? s).map fun (neg, ds) => if neg then -(ofDigits ds : Int) else ofDigits ds

/-- The value of an exponent, `0` where there is none. -/
def power? (cs : List Char) : Option Int :=
  match cs with
  | [] => some 0
  | e :: rest =>
    if e != 'e' && e != 'E' then none
    else
      let (neg, body) := signed rest
      let (ds, tail) := digitsFirst body
      if ds.isEmpty || !tail.isEmpty then none
      else some (if neg then -(ofDigits ds : Int) else ofDigits ds)

def double? (s : String) : Option Double :=
  let (neg, body) := signed (trimmed s)
  let word := String.ofList (body.map Char.toLower)
  if word == "inf" || word == "infinity" then some (.infinite neg)
  else if word == "nan" then some .nan
  else
    let (whole, rest) := digitsFirst body
    let (part, rest) := match rest with
      | '.' :: r => digitsFirst r
      | r => ([], r)
    if whole.isEmpty && part.isEmpty then none
    else (power? rest).map fun x => .ofDecimal neg (ofDigits (whole ++ part)) (x - part.length)

end TestWorker.Number
