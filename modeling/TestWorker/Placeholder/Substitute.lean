import TestWorker.Placeholder.Token
import TestWorker.Context

namespace TestWorker.Placeholder

def spliced : Value → String
  | .text s => s
  | v => Json.text Json.spaced v

/-- A segment with its token's value in place; an unbound token stays as it is. -/
def Segment.fill (c : Context) : Segment → List Char
  | plain ch => [ch]
  | token t => match c.get? t.name with
    | some v => (spliced v).toList
    | none => t.written

/-- A text that is one bound token gives the variable's value, of whatever kind. -/
def fill (c : Context) (s : String) : Value :=
  match segments s with
  | [.token t] => (c.get? t.name).getD (.text s)
  | segs => .text (String.ofList (segs.flatMap (Segment.fill c)))

def Segment.fillStrict (c : Context) : Segment → Except Fault (List Char)
  | plain ch => .ok [ch]
  | token t => match c.get? t.name with
    | some v => .ok (spliced v).toList
    | none => .error (.unresolved t.name)

/-- As `fill`, but the first unbound token is a fault. -/
def fillStrict (c : Context) (s : String) : Except Fault Value :=
  match segments s with
  | [.token t] => match c.get? t.name with
    | some v => .ok v
    | none => .error (.unresolved t.name)
  | segs => do return .text (String.ofList (← segs.mapM (Segment.fillStrict c)).flatten)

mutual

/-- Rebuilds lists and objects around their texts, in order; keys and all else stay. -/
def mapTexts [Monad m] (f : String → m Value) : Value → m Value
  | .text s => f s
  | .list vs => do return .list (← mapItems f vs)
  | .object es => do return .object (← mapEntries f es)
  | v => pure v

def mapItems [Monad m] (f : String → m Value) : List Value → m (List Value)
  | [] => pure []
  | v :: vs => do
    let w ← mapTexts f v
    return w :: (← mapItems f vs)

def mapEntries [Monad m] (f : String → m Value) :
    List (String × Value) → m (List (String × Value))
  | [] => pure []
  | (k, v) :: es => do
    let w ← mapTexts f v
    return (k, w) :: (← mapEntries f es)

end

def substitute (c : Context) (v : Value) : Value := Id.run (mapTexts (fun s => pure (fill c s)) v)

def substituteStrict (c : Context) (v : Value) : Except Fault Value := mapTexts (fillStrict c) v

/-- Strict or lenient, as the settings say. -/
def resolve (strict : Bool) (c : Context) (v : Value) : Except Fault Value :=
  if strict then substituteStrict c v else .ok (substitute c v)

end TestWorker.Placeholder
