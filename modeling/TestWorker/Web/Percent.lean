import TestWorker.Text.Encoding
import TestWorker.Text.Quoted

namespace TestWorker.Web

def isUnreserved (c : Char) : Bool := c.isAlphanum || c == '-' || c == '.' || c == '_' || c == '~'

def percentByte (b : UInt8) : List Char :=
  ['%', Text.upperHexDigit (b.toNat / 16), Text.upperHexDigit b.toNat]

def percentChar (c : Char) : List Char := (Text.utf8Bytes c.toString).flatMap percentByte

def isHexDigit (c : Char) : Bool :=
  c.isDigit || ('a' ≤ c && c ≤ 'f') || ('A' ≤ c && c ≤ 'F')

/-- Encodes all that is neither safe nor part of an escape already there. -/
def quoteChars (safe : Char → Bool) : List Char → List Char
  | [] => []
  | c :: cs =>
    let keep : Bool := isUnreserved c || safe c || c == '%' && match cs with
      | a :: b :: _ => isHexDigit a && isHexDigit b
      | _ => false
    (if keep then [c] else percentChar c) ++ quoteChars safe cs

def quote (safe : Char → Bool) (s : String) : String := String.ofList (quoteChars safe s.toList)

def hexByte (a b : Char) : UInt8 :=
  let value (c : Char) : Nat :=
    if c.isDigit then c.toNat - 48 else (c.toLower.toNat - 87)
  UInt8.ofNat (value a * 16 + value b)

def unquoteBytes : List Char → List UInt8
  | '%' :: a :: b :: cs =>
    if isHexDigit a && isHexDigit b then hexByte a b :: unquoteBytes cs
    else 37 :: unquoteBytes (a :: b :: cs)
  | c :: cs => Text.utf8Bytes c.toString ++ unquoteBytes cs
  | [] => []

def unquote (s : String) : String := Text.Encoding.utf8.decodeLossy (unquoteBytes s.toList)

/-- A blank is a plus, and only unreserved characters stand for themselves. -/
def formChar (c : Char) : List Char :=
  if c == ' ' then ['+'] else if isUnreserved c then [c] else percentChar c

def formQuote (s : String) : String := String.ofList (s.toList.flatMap formChar)

def formUnquote (s : String) : String :=
  unquote (String.ofList (s.toList.map fun c => if c == '+' then ' ' else c))

def base64Digit (n : Nat) : Char :=
  let n := n % 64
  if n < 26 then Char.ofNat (65 + n)
  else if n < 52 then Char.ofNat (71 + n)
  else if n < 62 then Char.ofNat (n - 4)
  else if n = 62 then '+' else '/'

def base64 : List UInt8 → List Char
  | [] => []
  | [a] =>
    let n := a.toNat * 16
    [base64Digit (n / 64), base64Digit n, '=', '=']
  | [a, b] =>
    let n := (a.toNat * 256 + b.toNat) * 4
    [base64Digit (n / 4096), base64Digit (n / 64), base64Digit n, '=']
  | a :: b :: c :: rest =>
    let n := (a.toNat * 256 + b.toNat) * 256 + c.toNat
    base64Digit (n / 262144) :: base64Digit (n / 4096) :: base64Digit (n / 64) :: base64Digit n ::
      base64 rest

end TestWorker.Web
