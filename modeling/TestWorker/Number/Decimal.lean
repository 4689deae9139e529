import TestWorker.Number.Double

namespace TestWorker

def digits (n : Nat) : List Char := (toString n).toList

def digitValue (c : Char) : Nat := c.toNat - '0'.toNat

def ofDigits (cs : List Char) : Nat := cs.foldl (fun n c => 10 * n + digitValue c) 0

namespace Double

/-- The reals that round to `m * 2^e`, in units of `2^(e-2)`, and whether the ends belong. -/
structure Interval where
  low : Nat
  high : Nat
  closed : Bool

def interval (m : Nat) (e : Int) : Interval where
  low := if m = leastNormal ∧ -1074 < e then 4 * m - 1 else 4 * m - 2
  high := 4 * m + 2
  closed := m % 2 = 0

/-- `d * 10^k` against `n * 2^e`. -/
def compareDecimal (d : Nat) (k : Int) (n : Nat) (e : Int) : Ordering :=
  compare (d * wholePower 10 k * wholePower 2 (-e)) (n * wholePower 2 e * wholePower 10 (-k))

def Interval.holds (i : Interval) (e : Int) (d : Nat) (k : Int) : Bool :=
  let low := compareDecimal d k i.low e
  let high := compareDecimal d k i.high e
  (low == .gt || i.closed && low == .eq) && (high == .lt || i.closed && high == .eq)

/-- Of the two neighbours of `m * 2^e` among the multiples of `10^k`, the one that reads back as it;
of two, the nearer, and at equal distance the even one. -/
def onGrid? (m : Nat) (e k : Int) : Option Nat :=
  let i := interval m e
  let d := m * wholePower 2 e * wholePower 10 (-k) / (wholePower 10 k * wholePower 2 (-e))
  match i.holds (e - 2) d k, i.holds (e - 2) (d + 1) k with
  | true, false => some d
  | false, true => some (d + 1)
  | false, false => none
  | true, true =>
    match compareDecimal (2 * d + 1) k (2 * m) e with
    | .gt => some d
    | .lt => some (d + 1)
    | .eq => some (d + d % 2)

/-- The power of ten at or below `m * 2^e`. -/
def floorLog10 (m : Nat) (e : Int) : Int :=
  let guess : Int := ((m.log2 : Int) + e) * 30103 / 100000
  if compareDecimal 1 (guess + 1) m e != .gt then guess + 1
  else if compareDecimal 1 guess m e != .gt then guess
  else guess - 1

/-- The fewest digits that read back as `m * 2^e`, with the power of ten of the last one. -/
def shortest (m : Nat) (e : Int) : Nat × Int :=
  let top := floorLog10 m e
  let grids := (List.range 17).map fun (n : Nat) => top - (n : Int)
  (grids.findSome? fun k => (onGrid? m e k).map (·, k)).getD (m, e)

/-- A decimal point after `point` of the digits, with zeros where digits are missing. -/
def positional (ds : List Char) (point : Int) : List Char :=
  if point ≤ 0 then '0' :: '.' :: List.replicate (-point).toNat '0' ++ ds
  else
    let n := point.toNat
    if ds.length ≤ n then ds ++ List.replicate (n - ds.length) '0' ++ ['.', '0']
    else ds.take n ++ '.' :: ds.drop n

/-- At least two digits after the sign. -/
def exponentText (x : Int) : List Char :=
  let ds := digits x.natAbs
  'e' :: (if x < 0 then '-' else '+') :: (if ds.length < 2 then '0' :: ds else ds)

/-- Positional from `0.0001` to below `10^16`, scientific outside. -/
def magnitudeText (m : Nat) (e : Int) : List Char :=
  let (d, k) := shortest m e
  let all := digits d
  let ds := (all.reverse.dropWhile (· == '0')).reverse
  let point := k + all.length
  if -4 < point ∧ point ≤ 16 then positional ds point
  else
    let body := match ds with
      | [] => []
      | [c] => [c]
      | c :: r => c :: '.' :: r
    body ++ exponentText (point - 1)

def text : Double → String
  | .nan => "nan"
  | .infinite s => if s then "-inf" else "inf"
  | .finite s m e =>
    let body := if m = 0 then "0.0" else String.ofList (magnitudeText m e)
    if s then "-" ++ body else body

/-- One place after the point; a tie goes to the even neighbour. -/
def onePlace : Double → String
  | .nan => "nan"
  | .infinite s => if s then "-inf" else "inf"
  | .finite s m e =>
    let n := roundHalfEven (10 * m * wholePower 2 e) (wholePower 2 (-e))
    (if s then "-" else "") ++ toString (n / 10) ++ "." ++ toString (n % 10)

end Double
end TestWorker
