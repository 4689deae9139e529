import TestWorker.Web.Percent
import TestWorker.Number.Reading

namespace TestWorker.Web

/-- Four runs of digits with one character between each two; even states want the first digit of a
run, odd ones are inside it. -/
def dottedStep (c : Char) (state : Nat) : List Nat :=
  if state % 2 = 0 then (if c.isDigit then [state + 1] else [])
  else (if c.isDigit then [state] else []) ++ (if state < 7 then [state + 1] else [])

def looksDotted (host : String) : Bool :=
  (host.toList.foldl (fun states c => (states.flatMap (dottedStep c)).eraseDups) [0]).contains 7

def isOctet (cs : List Char) : Bool :=
  !cs.isEmpty && cs.all Char.isDigit && cs.length ≤ 3 && ofDigits cs ≤ 255 &&
    !(cs.head? == some '0' && cs.length != 1)

def isIpv4 (cs : List Char) : Bool :=
  let parts := Text.splitChars (· == '.') cs
  parts.length = 4 && parts.all isOctet

def isHextet (cs : List Char) : Bool := !cs.isEmpty && cs.length ≤ 4 && cs.all isHexDigit

/-- The parts of an address with an IPv4 ending as two groups; nothing if that ending is none. -/
def withoutDotted (parts : List (List Char)) : Option (List (List Char)) :=
  match parts.getLast? with
  | some last =>
    if last.contains '.' then
      if isIpv4 last then some (parts.dropLast ++ [['0'], ['0']]) else none
    else some parts
  | none => some parts

def isIpv6Parts (parts : List (List Char)) : Bool :=
  let n := parts.length
  let gaps := (List.range n).filter fun i =>
    0 < i && i + 1 < n && (parts.getD i []).isEmpty
  let headEmpty := (parts.head?.getD []).isEmpty
  let lastEmpty := (parts.getLast?.getD []).isEmpty
  match gaps with
  | [] => n = 8 && parts.all isHextet
  | [gap] =>
    let high := if headEmpty then gap - 1 else gap
    let low := if lastEmpty then n - gap - 2 else n - gap - 1
    !(headEmpty && high != 0) && !(lastEmpty && low != 0) && high + low < 8 &&
      (parts.take high).all isHextet && ((parts.drop (n - low)).all isHextet)
  | _ => false

/-- Groups of hexadecimal digits, one gap at most, and a zone if any. -/
def isIpv6 (cs : List Char) : Bool :=
  let address := cs.takeWhile (· != '%')
  let zone := cs.dropWhile (· != '%')
  let zoneFits := match zone with
    | [] => true
    | _ :: z => !z.isEmpty && !z.contains '%'
  let parts := Text.splitChars (· == ':') address
  zoneFits && !cs.contains '/' && 3 ≤ parts.length &&
    match withoutDotted parts with
    | some parts => parts.length ≤ 9 && isIpv6Parts parts
    | none => false

namespace Punycode

def adapt (delta points : Nat) (first : Bool) : Nat :=
  let d := if first then delta / 700 else delta / 2
  let rec go (fuel d k : Nat) : Nat :=
    match fuel with
    | 0 => k + 36 * d / (d + 38)
    | fuel + 1 => if 455 < d then go fuel (d / 35) (k + 36) else k + 36 * d / (d + 38)
  go 16 (d + d / points) 0

def digit (n : Nat) : Char := if n < 26 then Char.ofNat (97 + n) else Char.ofNat (22 + n)

def threshold (k bias : Nat) : Nat := if k ≤ bias then 1 else if bias + 26 ≤ k then 26 else k - bias

def number (fuel q k bias : Nat) : List Char :=
  match fuel with
  | 0 => []
  | fuel + 1 =>
    let t := threshold k bias
    if q < t then [digit q]
    else digit (t + (q - t) % (36 - t)) :: number fuel ((q - t) / (36 - t)) (k + 36) bias

structure State where
  delta : Nat
  bias : Nat
  handled : Nat
  out : List Char

def point (basic n : Nat) (s : State) (c : Char) : State :=
  if c.toNat < n then { s with delta := s.delta + 1 }
  else if c.toNat = n then
    { delta := 0
      bias := adapt s.delta (s.handled + 1) (s.handled = basic)
      handled := s.handled + 1
      out := s.out ++ number 32 s.delta 36 s.bias }
  else s

def levels (cs : List Char) : List Nat :=
  ((cs.filter (!Text.isAscii ·)).map Char.toNat).mergeSort.eraseDups

def encode (cs : List Char) : List Char :=
  let basic := cs.filter Text.isAscii
  let start : State := ⟨0, 72, basic.length, if basic.isEmpty then [] else basic ++ ['-']⟩
  let step (acc : State × Nat) (n : Nat) : State × Nat :=
    let (s, seen) := acc
    let s := { s with delta := s.delta + (n - seen) * (s.handled + 1) }
    let s := cs.foldl (point basic.length n) s
    ({ s with delta := s.delta + 1 }, n + 1)
  ((levels cs).foldl step (start, 128)).1.out

def value? (c : Char) : Option Nat :=
  if c.isDigit then some (c.toNat - 22)
  else if c.isAlpha then some (c.toLower.toNat - 97) else none

/-- One number and what follows it. -/
def readNumber (k bias weight sum : Nat) : List Char → Option (Nat × List Char)
  | [] => none
  | c :: cs => do
    let d ← value? c
    let t := threshold k bias
    let sum := sum + d * weight
    if d < t then some (sum, cs) else readNumber (k + 36) bias (weight * (36 - t)) sum cs

def insertAt (cs : List Char) (i : Nat) (c : Char) : List Char := cs.take i ++ c :: cs.drop i

def expand (fuel n i bias : Nat) (first : Bool) (out : List Char) : List Char → Option (List Char)
  | [] => some out
  | cs =>
    match fuel with
    | 0 => none
    | fuel + 1 => do
      let (d, rest) ← readNumber 36 bias 1 0 cs
      let length := out.length + 1
      let position := i + d
      let n := n + position / length
      let place := position % length
      expand fuel n (place + 1) (adapt d length first) false
        (insertAt out place (Char.ofNat n)) rest

def decode (cs : List Char) : Option (List Char) :=
  let basic := (cs.reverse.dropWhile (· != '-')).drop 1
  let coded := (cs.reverse.takeWhile (· != '-')).reverse
  expand (cs.length + 1) 128 0 72 true basic.reverse coded

end Punycode

def isDot (c : Char) : Bool := c == '.' || c.toNat = 0x3002 || c.toNat = 0xFF0E || c.toNat = 0xFF61

/-- A character that a label may hold: lower-case letters, digits, marks, and the hyphen. -/
def labelChar (c : Char) : Bool :=
  if Text.isAscii c then c.isLower || c.isDigit || c == '-'
  else Text.isWord c && Text.lowerChar c == [c] || 0x300 ≤ c.toNat && c.toNat ≤ 0x36F

/-- The ASCII form of one label. -/
def asciiLabel? (label : List Char) : Option (List Char) :=
  let hyphenated := label.head? == some '-' || label.getLast? == some '-' ||
    (label.drop 2).take 2 == ['-', '-']
  if label.isEmpty then none
  else if label.all Text.isAscii then
    if label.length ≤ 63 && ("xn--".toList.isPrefixOf label || !hyphenated && label.all labelChar)
    then some label else none
  else if hyphenated || !label.all labelChar then none
  else
    let coded := "xn--".toList ++ Punycode.encode label
    if coded.length ≤ 63 then some coded else none

def asciiName? (name : String) : Option String := do
  let labels := Text.splitChars isDot name.toList
  let (body, trailing) := match labels.reverse with
    | [] :: r => (r.reverse, true)
    | _ => (labels, false)
  let coded ← body.mapM asciiLabel?
  if coded.isEmpty then none
  return ".".intercalate (coded.map String.ofList) ++ (if trailing then "." else "")

def unicodeName (name : String) : String :=
  let label (cs : List Char) : List Char :=
    if "xn--".toList.isPrefixOf cs then (Punycode.decode (cs.drop 4)).getD cs else cs
  ".".intercalate ((Text.splitChars (· == '.') name.toList).map fun l => String.ofList (label l))

end TestWorker.Web
