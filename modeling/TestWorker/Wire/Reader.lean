import TestWorker.Wire.Issue
import TestWorker.Text.Encoding
import TestWorker.Number.Reading

namespace TestWorker.Wire

abbrev Checked (α : Type) := Except (List Issue) α

def complain (c : Complaint) (v : Value) : Except (List Issue) α := .error [⟨c, [], v.kind⟩]

def Checked.under (p : Place) (r : Except (List Issue) α) : Except (List Issue) α :=
  r.mapError (·.map (Issue.under p))

/-- Both parts, or the issues of both. -/
def Checked.both (r : Except (List Issue) α) (s : Except (List Issue) β) :
    Except (List Issue) (α × β) :=
  match r, s with
  | .ok a, .ok b => .ok (a, b)
  | .ok _, .error e => .error e
  | .error e, .ok _ => .error e
  | .error e, .error f => .error (e ++ f)

/-- Any value as a text. -/
def display (v : Value) : Except (List Issue) String := .ok v.display

def anything (v : Value) : Except (List Issue) Value := .ok v

def object : Value → Except (List Issue) Entries
  | .object es => .ok es
  | v => complain .notObject v

def nullable (read : Value → Except (List Issue) α) : Value → Except (List Issue) (Option α)
  | .null => .ok none
  | v => (read v).map some

/-- Null reads as a default. -/
def orElse (default : α) (read : Value → Except (List Issue) α) : Value → Except (List Issue) α
  | .null => .ok default
  | v => read v

def items (read : Value → Except (List Issue) α) (n : Nat) :
    List Value → Except (List Issue) (List α)
  | [] => .ok []
  | v :: vs =>
    (Checked.both (Checked.under (.index n) (read v)) (items read (n + 1) vs)).map
      fun (a, as) => a :: as

def list (read : Value → Except (List Issue) α) : Value → Except (List Issue) (List α)
  | .list vs | .tuple vs => items read 0 vs
  | v => complain .notList v

/-- The text of a value that is one; bytes are read as UTF-8. -/
def text : Value → Except (List Issue) String
  | .text s => .ok s
  | .bytes bs =>
    match Text.Encoding.utf8.decode bs with
    | .ok s => .ok s
    | .error _ => complain .notUnicode (.bytes bs)
  | v => complain .notText v

/-- A text, or bytes that are one. -/
def textOf? : Value → Option (Except Unit String)
  | .text s => some (.ok s)
  | .bytes bs => some ((Text.Encoding.utf8.decode bs).mapError fun _ => ())
  | _ => none

def falseWords : List String := ["0", "off", "f", "false", "n", "no"]
def trueWords : List String := ["1", "on", "t", "true", "y", "yes"]

def boolOfWord? (s : String) : Option Bool :=
  let w := Text.asciiLower s
  if falseWords.contains w then some false
  else if trueWords.contains w then some true
  else none

def boolOfRat? (q : Rat) : Option Bool :=
  if q = 0 then some false else if q = 1 then some true else none

def bool (v : Value) : Except (List Issue) Bool :=
  match v with
  | .bool b => .ok b
  | _ =>
    match textOf? v with
    | some (.ok s) => match boolOfWord? s with
      | some b => .ok b
      | none => complain .unreadableBool v
    | some (.error _) => complain .unreadableBool v
    | none =>
      match v.number? with
      | some q =>
        if q.den = 1 then match boolOfRat? q with
          | some b => .ok b
          | none => complain .unreadableBool v
        else complain .notBool v
      | none => complain .notBool v

/-- Blanks that are cut from a written number. -/
def isMargin (c : Char) : Bool := Text.isBlank c && !(28 ≤ c.toNat && c.toNat ≤ 31)

/-- Digits of ASCII, a point, and a power of ten. -/
def plainDouble? (cs : List Char) : Option Double :=
  let (neg, body) := Number.signed cs
  let word := String.ofList (body.map Char.toLower)
  if word == "inf" || word == "infinity" then some (.infinite neg)
  else if word == "nan" then some .nan
  else
    let whole := body.takeWhile Char.isDigit
    let rest := body.dropWhile Char.isDigit
    let (part, rest) := match rest with
      | '.' :: r => (r.takeWhile Char.isDigit, r.dropWhile Char.isDigit)
      | r => ([], r)
    if whole.isEmpty && part.isEmpty || rest.contains '_' then none
    else (Number.power? rest).map fun x =>
      .ofDecimal neg (ofDigits (whole ++ part)) (x - part.length)

def doubledUnderscore : List Char → Bool
  | '_' :: '_' :: _ => true
  | _ :: r => doubledUnderscore r
  | [] => false

/-- Underscores between other characters are dropped if the text is no number with them. -/
def writtenDouble? (s : String) : Option Double :=
  let cs := s.toList
  match plainDouble? (Text.stripChars isMargin cs) with
  | some x => some x
  | none =>
    if cs.head? == some '_' || cs.getLast? == some '_' || doubledUnderscore cs then none
    else plainDouble? (Text.stripChars isMargin (cs.filter (· != '_')))

def double (v : Value) : Except (List Issue) Double :=
  match v with
  | .float x => .ok x
  | .bool b => .ok (.ofNat b.toNat)
  | .int n =>
    match Double.ofInt n with
    | .infinite _ => complain .notNumber v
    | x => .ok x
  | .decimal w =>
    match Number.double? w with
    | some x => .ok x
    | none => complain .notNumber v
  | _ =>
    match textOf? v with
    | some (.ok s) => match writtenDouble? s with
      | some x => .ok x
      | none => complain .unreadableNumber v
    | some (.error _) => complain .unreadableNumber v
    | none => complain .notNumber v

/-- A field under its first name, else under its second; absent it reads as the default, and with
none it is missing. -/
def field (whole : Value) (names : List String) (default : Option α)
    (read : Value → Except (List Issue) α) : Except (List Issue) α :=
  let found := names.findSome? fun k =>
    match whole with
    | .object es => (Entries.get? es k).map (k, ·)
    | _ => none
  match found, default with
  | some (k, v), _ => Checked.under (.key k) (read v)
  | none, some a => .ok a
  | none, none => .error [⟨.missing, names.head?.toList.map .key, whole.kind⟩]

/-- A document of a named model is an object. -/
def model (name : String) (read : Value → Except (List Issue) α) (v : Value) :
    Except (List Issue) α :=
  match v with
  | .object _ => read v
  | _ => complain (.notModel name) v

end TestWorker.Wire
