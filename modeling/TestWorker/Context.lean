import TestWorker.Fault

namespace TestWorker

/-- Variables in the order in which they were first set. -/
structure Context where
  entries : List (Value × Value) := []
  deriving Repr

namespace Context

def ofEntries (es : Entries) : Context := ⟨es.map fun (k, v) => (.text k, v)⟩

/-- Both sources in one; the environment wins where both name a key. -/
def create (test environment : Entries) : Context :=
  ofEntries (Entries.merge (Entries.ofList test) environment)

def lookup (c : Context) (key : Value) : Option Value :=
  (c.entries.find? fun (k, _) => k.sameKey key).map (·.2)

def get? (c : Context) (key : String) : Option Value := c.lookup (.text key)

/-- A known key keeps its place. -/
def putEntry : List (Value × Value) → Value → Value → List (Value × Value)
  | [], key, v => [(key, v)]
  | (k, w) :: r, key, v => if k.sameKey key then (k, v) :: r else (k, w) :: putEntry r key v

def put (c : Context) (key value : Value) : Context := ⟨putEntry c.entries key value⟩

/-- Only a key that cannot change may be stored under. -/
def set (c : Context) (key value : Value) : Except Fault Context :=
  match key.unhashable? with
  | some k => .error (.unhashable k)
  | none => .ok (c.put key value)

def find (c : Context) (key : Value) : Except Fault (Option Value) :=
  match key.unhashable? with
  | some k => .error (.unhashable k)
  | none => .ok (c.lookup key)

def keys (c : Context) : List Value := c.entries.map (·.1)

def size (c : Context) : Nat := c.entries.length

/-- The key and the value of one element of a sequence of pairs. -/
def pairOf (index : Nat) (v : Value) : Except Fault (Value × Value) :=
  let parts? : Option (List Value) := match v with
    | .list vs | .tuple vs => some vs
    | .text s => some (s.toList.map fun c => .text c.toString)
    | .bytes bs => some (bs.map fun b => .int b.toNat)
    | .object es => some (es.map fun (k, _) => .text k)
    | _ => none
  match parts? with
  | none => .error (.badPair (.notSequence index))
  | some [k, v] => .ok (k, v)
  | some vs => .error (.badPair (.wrongLength index vs.length))

def ofPairs (vs : List Value) : Except Fault Context :=
  vs.zipIdx.foldlM (fun c (v, i) => do
    let (k, w) ← pairOf i v
    c.set k w) ⟨[]⟩

/-- A mapping, or any sequence of pairs; what is false counts as empty. -/
def ofValue (v : Value) : Except Fault Context :=
  if !v.truthy then .ok ⟨[]⟩
  else match v with
    | .object es => .ok (ofEntries es)
    | .list vs | .tuple vs => ofPairs vs
    | .text s => ofPairs (s.toList.map fun c => .text c.toString)
    | .bytes bs => ofPairs (bs.map fun b => .int b.toNat)
    | v => .error (.notIterable v.qualifiedKind)

def mappingOf (v : Value) : Except Fault Entries :=
  if !v.truthy then .ok []
  else match v with
    | .object es => .ok es
    | v => .error (.notMapping v.qualifiedKind)

def merge (test environment : Value) : Except Fault Context := do
  return create (← mappingOf test) (← mappingOf environment)

/-- Whether one key comes before another; nothing if their kinds have no order. -/
def keyBelow? : Value → Value → Option Bool
  | .text s, .text t => some (decide (s < t))
  | .bytes s, .bytes t => some (decide (s < t))
  | .date s, .date t => some (decide (s < t))
  | v, w => do return decide ((← v.number?) < (← w.number?))

def insertKey (key : Value) : List Value → Except Fault (List Value)
  | [] => .ok [key]
  | k :: ks =>
    match keyBelow? key k with
    | some true => .ok (key :: k :: ks)
    | some false => do return k :: (← insertKey key ks)
    | none => .error (.wrongKind ("'<' not supported between instances of '" ++
        key.qualifiedKind ++ "' and '" ++ k.qualifiedKind ++ "'"))

def display (c : Context) : Except Fault String := do
  let sorted ← c.keys.foldlM (fun ks k => insertKey k ks) []
  return "Context(" ++ (Value.list sorted).literal ++ ")"

end Context
end TestWorker
