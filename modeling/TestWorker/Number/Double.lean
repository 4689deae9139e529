namespace TestWorker

/-- `finite s m e` stands for `± m * 2^e`, with `m < 2^53`, `-1074 ≤ e ≤ 971`, and `2^52 ≤ m`
unless `e = -1074`. -/
inductive Double where
  | nan
  | infinite (negative : Bool)
  | finite (negative : Bool) (significand : Nat) (exponent : Int)
  deriving DecidableEq, Repr

/-- The quotient to the nearest whole number; a half goes to the even neighbour. -/
def roundHalfEven (num den : Nat) : Nat :=
  let q := num / den
  let twice := 2 * (num % den)
  if twice < den then q
  else if den < twice then q + 1
  else q + q % 2

/-- The power `base^e`, and `1` when `e` is negative: so `base^e` is always the quotient of
`wholePower base e` by `wholePower base (-e)`. -/
def wholePower (base : Nat) (e : Int) : Nat := Nat.pow base e.toNat

/-- The power of two at or below a positive quotient. -/
def floorLog2 (num den : Nat) : Int :=
  let k : Int := (num.log2 : Int) - den.log2
  let reaches := den * wholePower 2 k ≤ num * wholePower 2 (-k)
  if reaches then k else k - 1

namespace Double

def leastNormal : Nat := 4503599627370496

def zero (negative : Bool) : Double := .finite negative 0 (-1074)

/-- Rounds `± num / den`. -/
def ofQuotient (negative : Bool) (num den : Nat) : Double :=
  if num = 0 then zero negative
  else
    let e := max (-1074) (floorLog2 num den - 52)
    let m := roundHalfEven (num * wholePower 2 (-e)) (den * wholePower 2 e)
    let (m, e) := if m = 2 * leastNormal then (leastNormal, e + 1) else (m, e)
    if 971 < e then .infinite negative else .finite negative m e

/-- Rounds `± digits * 10^exponent`. Far outside the range the power of ten is never built. -/
def ofDecimal (negative : Bool) (digits : Nat) (exponent : Int) : Double :=
  let width : Int := digits.log2 + 1
  if digits = 0 then zero negative
  else if 310 < exponent then .infinite negative
  else if exponent + width < -400 then zero negative
  else ofQuotient negative (digits * wholePower 10 exponent) (wholePower 10 (-exponent))

def ofInt (n : Int) : Double := ofQuotient (n < 0) n.natAbs 1

def ofNat (n : Nat) : Double := ofQuotient false n 1

def isFinite : Double → Bool
  | .finite .. => true
  | _ => false

def isNaN : Double → Bool
  | .nan => true
  | _ => false

def isZero : Double → Bool
  | .finite _ 0 _ => true
  | _ => false

def toRat? : Double → Option Rat
  | .finite s m e =>
    let v : Rat := mkRat (m * wholePower 2 e : Nat) (wholePower 2 (-e))
    some (if s then -v else v)
  | _ => none

def ofRat (negativeZero : Bool) (q : Rat) : Double :=
  if q = 0 then zero negativeZero else ofQuotient (q < 0) q.num.natAbs q.den

/-- The whole part, dropping the fraction. -/
def truncate? : Double → Option Int
  | .finite s m e =>
    let v : Int := (m * wholePower 2 e / wholePower 2 (-e) : Nat)
    some (if s then -v else v)
  | _ => none

def neg : Double → Double
  | .nan => .nan
  | .infinite s => .infinite (!s)
  | .finite s m e => .finite (!s) m e

def add : Double → Double → Double
  | .infinite s, .infinite t => if s = t then .infinite s else .nan
  | .infinite s, .finite .. => .infinite s
  | .finite .., .infinite t => .infinite t
  | x@(.finite s _ _), y@(.finite t _ _) =>
    ofRat (s && t) (x.toRat?.getD 0 + y.toRat?.getD 0)
  | _, _ => .nan

def sub (x y : Double) : Double := add x (neg y)

def mul : Double → Double → Double
  | .nan, _ | _, .nan => .nan
  | .infinite s, .infinite t => .infinite (s != t)
  | .infinite s, .finite t m _ => if m = 0 then .nan else .infinite (s != t)
  | .finite s m _, .infinite t => if m = 0 then .nan else .infinite (s != t)
  | x@(.finite s _ _), y@(.finite t _ _) =>
    ofRat (s != t) (x.toRat?.getD 0 * y.toRat?.getD 0)

def lt : Double → Double → Bool
  | .nan, _ | _, .nan => false
  | .infinite s, .infinite t => s && !t
  | .infinite s, .finite .. => s
  | .finite .., .infinite t => !t
  | x@(.finite ..), y@(.finite ..) => decide (x.toRat?.getD 0 < y.toRat?.getD 0)

end Double
end TestWorker
