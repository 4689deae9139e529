import TestWorker.Web.Percent
import TestWorker.Fault

namespace TestWorker.Web

/-- Each name once, at the place where it came first, with its values in order. -/
abbrev Query := List (String × List String)

namespace Query

def add : Query → String → String → Query
  | [], name, value => [(name, [value])]
  | (n, vs) :: q, name, value =>
    if n == name then (n, vs ++ [value]) :: q else (n, vs) :: add q name value

/-- Name and value of one part of a text; a name alone has an empty value. -/
def pairOf (part : List Char) : String × String :=
  let name := part.takeWhile (· != '=')
  let value := (part.dropWhile (· != '=')).drop 1
  (formUnquote (String.ofList name), formUnquote (String.ofList value))

def ofText (s : String) : Query :=
  ((Text.splitChars (· == '&') s.toList).filter (!·.isEmpty)).foldl
    (fun q part => let (name, value) := pairOf part; q.add name value) []

/-- How a single value is written in a query. -/
def valueText : Value → String
  | .null => ""
  | .bool b => if b then "true" else "false"
  | v => v.display

def valuesOf : Value → List String
  | .list vs | .tuple vs => vs.map valueText
  | v => [valueText v]

/-- The element of a value at place zero or one. -/
def element (v : Value) (i : Nat) : Except Fault Value :=
  let nth (vs : List Value) (what : String) : Except Fault Value := match vs[i]? with
    | some w => .ok w
    | none => .error (.outOfRange (what ++ "index out of range"))
  match v with
  | .list vs => nth vs "list "
  | .tuple vs => nth vs "tuple "
  | .text s => nth (s.toList.map fun c => .text c.toString) "string "
  | .bytes bs => nth (bs.map fun b => .int b.toNat) ""
  | .object _ => .error (.missingKey (.int i))
  | v => .error (.wrongKind ("'" ++ v.qualifiedKind ++ "' object is not subscriptable"))

/-- Values grouped under keys of any kind that can serve as one. -/
def group (groups : List (Value × List Value)) (item : Value) :
    Except Fault (List (Value × List Value)) := do
  let key ← element item 0
  match key.unhashable? with
  | some k => throw (.unhashable k)
  | none => pure ()
  let known := groups.any fun (k, _) => k.sameKey key
  let groups := if known then groups else groups ++ [(key, [])]
  let value ← element item 1
  return groups.map fun (k, vs) => if k.sameKey key then (k, vs ++ [value]) else (k, vs)

/-- A key written as text takes the place of an earlier key with the same text. -/
def ofGroups (groups : List (Value × List Value)) : Query :=
  groups.foldl (fun q (k, vs) => Entries.put q k.display (vs.map valueText)) []

def ofValue : Value → Except Fault Query
  | .text s => .ok (ofText s)
  | .bytes bs => match Text.Encoding.ascii.decode bs with
    | .ok s => .ok (ofText s)
    | .error e => .error (.undecodable e.message)
  | .list vs | .tuple vs => do return ofGroups (← vs.foldlM group [])
  | .object es => .ok (es.map fun (k, v) => (k, valuesOf v))
  | .null => .ok []
  | v => .error (.noOperation v.qualifiedKind "items")

def pairs (q : Query) : List (String × String) := q.flatMap fun (n, vs) => vs.map (n, ·)

def text (q : Query) : String :=
  "&".intercalate (q.pairs.map fun (n, v) => formQuote n ++ "=" ++ formQuote v)

end Query
end TestWorker.Web
