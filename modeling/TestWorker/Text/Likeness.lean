namespace TestWorker.Text

/-- How many characters two texts start with alike. -/
def commonStart : List Char → List Char → Nat
  | a :: as, b :: bs => if a = b then commonStart as bs + 1 else 0
  | _, _ => 0

/-- A run that two texts have in common: where it starts in each, and its length. -/
structure Run where
  first : Nat
  second : Nat
  length : Nat
  deriving DecidableEq, Repr

/-- The longest common run that starts with the first text, the leftmost of the second. -/
def runAtStart (as bs : List Char) : Run :=
  (List.range bs.length).foldl (fun best j =>
    let n := commonStart as (bs.drop j)
    if best.length < n then ⟨0, j, n⟩ else best) ⟨0, 0, 0⟩

/-- The longest common run, the leftmost of the first text and then of the second. -/
def longestRun (as bs : List Char) : Run :=
  (List.range as.length).foldl (fun best i =>
    let r := runAtStart (as.drop i) bs
    if best.length < r.length then { r with first := i } else best) ⟨0, 0, 0⟩

/-- Characters in common runs. Each run takes at least one character of the first text, so its
length bounds the depth. -/
def alike : Nat → List Char → List Char → Nat
  | 0, _, _ => 0
  | n + 1, as, bs =>
    let r := longestRun as bs
    if r.length = 0 then 0
    else
      alike n (as.take r.first) (bs.take r.second) + r.length +
        alike n (as.drop (r.first + r.length)) (bs.drop (r.second + r.length))

/-- Twice the characters in common runs, out of the characters of both words. -/
def likeness (a b : String) : Nat × Nat :=
  (2 * alike a.length a.toList b.toList, a.length + b.length)

/-- Words of a list that are at least three fifths like a word, the three most alike, those
first. -/
def similar (word : String) (words : List String) : List String :=
  let scored := words.map fun w => (likeness w word, w)
  let close := scored.filter fun ((n, d), _) => 3 * d ≤ 5 * n
  let ordered := close.mergeSort fun ((n, d), v) ((n', d'), w) =>
    n' * d < n * d' || (n' * d == n * d' && decide (w ≤ v))
  (ordered.take 3).map (·.2)

end TestWorker.Text
