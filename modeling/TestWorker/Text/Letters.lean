import TestWorker.Text.Table
import TestWorker.Text.CaseTable

namespace TestWorker.Text

def within (ranges : List (Nat × Nat)) (c : Char) : Bool :=
  ranges.any fun (a, b) => a ≤ c.toNat && c.toNat ≤ b

def isAscii (c : Char) : Bool := c.toNat < 128

/-- Tab to carriage return, the four separators, and the space. -/
def isAsciiBlank (c : Char) : Bool :=
  c == ' ' || 9 ≤ c.toNat && c.toNat ≤ 13 || 28 ≤ c.toNat && c.toNat ≤ 31

def isBlank (c : Char) : Bool :=
  if isAscii c then isAsciiBlank c else within Table.blank c

def isWord (c : Char) : Bool :=
  if isAscii c then c.isAlphanum || c == '_' else within Table.alphanumeric c

def isPrintable (c : Char) : Bool :=
  if isAscii c then 32 ≤ c.toNat && c.toNat < 127 else !within Table.unprintable c

def decimalDigit? (c : Char) : Option Nat :=
  if isAscii c then if c.isDigit then some (c.toNat - 48) else none
  else (Table.decimalZeros.find? fun z => z ≤ c.toNat && c.toNat ≤ z + 9).map (c.toNat - ·)

def CaseRun.image? (c : Char) (r : CaseRun) : Option Char :=
  if r.first ≤ c.toNat ∧ c.toNat ≤ r.last ∧ (c.toNat - r.first) % r.stride = 0
  then some (Char.ofNat ((c.toNat : Int) + r.shift).toNat) else none

def upperChar (c : Char) : List Char :=
  if isAscii c then [c.toUpper]
  else match CaseTable.upperMany.lookup c.toNat with
    | some many => many.map Char.ofNat
    | none => [(CaseTable.upper.findSome? (CaseRun.image? c)).getD c]

/-- The capital I with a dot keeps its dot as a combining mark. -/
def lowerChar (c : Char) : List Char :=
  if isAscii c then [c.toLower]
  else if c.toNat = 0x130 then ['i', Char.ofNat 0x307]
  else [(CaseTable.lower.findSome? (CaseRun.image? c)).getD c]

def upper (s : String) : String := String.ofList (s.toList.flatMap upperChar)

def lower (s : String) : String := String.ofList (s.toList.flatMap lowerChar)

def asciiLower (s : String) : String := String.ofList (s.toList.map Char.toLower)

def stripChars (drop : Char → Bool) (cs : List Char) : List Char :=
  ((cs.dropWhile drop).reverse.dropWhile drop).reverse

def strip (s : String) : String := String.ofList (stripChars isBlank s.toList)

def intercalate (sep : String) (parts : List String) : String := sep.intercalate parts

/-- The pieces between occurrences of one character; always at least one. -/
def splitChars (cut : Char → Bool) : List Char → List (List Char)
  | [] => [[]]
  | c :: r =>
    if cut c then [] :: splitChars cut r
    else match splitChars cut r with
      | [] => [[c]]
      | p :: ps => (c :: p) :: ps

def startsWith (p : List Char) (s : List Char) : Bool := p.isPrefixOf s

end TestWorker.Text
