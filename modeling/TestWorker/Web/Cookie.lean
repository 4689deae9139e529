import TestWorker.Web.Url
import TestWorker.Value

namespace TestWorker.Web

structure Cookie where
  /-- A cookie may be a name alone. -/
  value : Option String
  secure : Bool
  deriving DecidableEq, Repr

/-- Cookies by domain, path and name, each level in the order of first use. -/
abbrev Jar := List (String × List (String × List (String × Cookie)))

/-- What a response asks to keep or to forget. -/
structure CookieOrder where
  domain : String
  path : String
  name : String
  /-- Nothing where the cookie has lapsed. -/
  cookie : Option Cookie
  deriving DecidableEq, Repr

namespace Cookie

/-- The host of an address as a cookie's domain; a name without a dot is local. -/
def hostOf (u : Url) : String :=
  let host :=
    Text.asciiLower ((if u.userinfo.isEmpty then "" else u.userinfo ++ "@") ++ bracketedHost u)
  if host.toList.contains '.' then host else host ++ ".local"
where
  bracketedHost (u : Url) : String := Url.bracketed u.host

def pathSafeChar (c : Char) : Bool := "%/;:@&=+$,!~*'()".toList.contains c

/-- Escapes are written in capitals. -/
def capitalEscapes : List Char → List Char
  | '%' :: a :: b :: cs => '%' :: a.toUpper :: b.toUpper :: capitalEscapes cs
  | c :: cs => c :: capitalEscapes cs
  | [] => []

def escapePath (path : String) : String :=
  String.ofList (capitalEscapes (quote pathSafeChar path).toList)

def pathOf (u : Url) : String :=
  let path := escapePath u.path
  if path.startsWith "/" then path else "/" ++ path

/-- The directory of the requested path, as a rule without its slash. -/
def defaultPath (bare : Bool) (u : Url) : String :=
  let directory := match splitLast '/' (pathOf u).toList with
    | some (before, _) => if bare then before else before ++ ['/']
    | none => []
  if directory.isEmpty then "/" else String.ofList directory

def weekdays : List String := ["sun", "mon", "tue", "wed", "thu", "fri", "sat"]

def months : List String :=
  ["jan", "feb", "mar", "apr", "may", "jun", "jul", "aug", "sep", "oct", "nov", "dec"]

/-- Dates before this year have passed. -/
def presentYear : Nat := 2026

/-- A year of two digits lies within half a century of the present. -/
def fullYear (n : Nat) : Nat :=
  if n < 100 then if n < presentYear - 2000 + 50 then 2000 + n else 1900 + n else n

/-- The year of a date, by day, month and year after an optional day of the week. -/
def year? (date : String) : Option Nat :=
  let cuts (c : Char) : Bool := c == ' ' || c == '-' || c == '/' || c == ','
  let words :=
    ((Text.splitChars cuts (Text.lower date).toList).filter (!·.isEmpty)).map String.ofList
  let words := match words with
    | w :: ws => if weekdays.any (w.startsWith ·) then ws else words
    | [] => []
  match words with
  | day :: month :: year :: _ =>
    if day.length ≤ 2 && day.all Char.isDigit && months.contains month && year.all Char.isDigit then
      year.toNat?.map fullYear
    else none
  | _ => none

structure Attributes where
  domain : Option String := none
  path : Option String := none
  version : Option String := none
  secure : Option Bool := none
  /-- Whether the cookie is one to forget, by the limit that counts. -/
  lapsed : Option Bool := none
  /-- The limit is an age, which goes before a date. -/
  aged : Bool := false

/-- What is wrong with a line: it alone is passed over, or all lines of the response are. -/
inductive Flaw where
  | line
  | response
  deriving DecidableEq, Repr

/-- The first of two attributes of one name counts, but the last age. -/
def addAttribute (a : Attributes) (part : String × Option String) : Except Flaw Attributes :=
  match Text.asciiLower part.1, part.2 with
  | "secure", v => .ok { a with secure := a.secure.or (some (v != some "")) }
  | "domain", some v => .ok { a with domain := a.domain.or (some (Text.asciiLower v)) }
  | "path", some v => .ok { a with path := a.path.or (some v) }
  | "version", some v => .ok { a with version := a.version.or (some v) }
  | "expires", some v =>
    match a.aged, a.lapsed, year? v with
    | false, none, some y => .ok { a with lapsed := some (y < presentYear) }
    | _, _, _ => .ok a
  | "max-age", some v =>
    match Number.int? v with
    | some n => .ok { a with lapsed := some (n ≤ 0), aged := true }
    | none => .error .line
  | "max-age", none => .error .response
  | "domain", none => if a.domain.isSome then .ok a else .error .line
  | "path", none => if a.path.isSome then .ok a else .error .line
  | "version", none => if a.version.isSome then .ok a else .error .line
  | _, _ => .ok a

/-- A name, and the value after the equals sign if there is one. -/
def splitPair (cs : List Char) : String × Option String :=
  let name := Text.strip (String.ofList (cs.takeWhile (· != '=')))
  (name, match cs.dropWhile (· != '=') with
    | [] => none
    | _ :: v => some (Text.strip (String.ofList v)))

/-- The domain may be a parent of the host that sets the cookie, but not a name without a dot. -/
def domainAllowed (host domain : String) : Bool :=
  let bare := if domain.startsWith "." then String.ofList (domain.toList.drop 1) else domain
  (bare.toList.contains '.' || host.endsWith ".local") &&
    (host.endsWith (bare ++ ".local") || ("." ++ host).endsWith domain)

/-- What one line of a response to a request for `u` sets; nothing where the cookie is not
wanted. -/
def order (u : Url) (line : String) : Except Flaw (Option CookieOrder) := do
  match (Text.splitChars (· == ';') line.toList).map splitPair with
  | [] => return none
  | (name, value) :: parts =>
    if name.isEmpty then return none
    let a ← (parts.filter fun (k, _) => !k.isEmpty).foldlM addAttribute {}
    let version ← match Number.int? (a.version.getD "0") with
      | some v => pure v
      | none => throw .line
    let host := hostOf u
    let domain := match a.domain with
      | some d => if d.startsWith "." then d else "." ++ d
      | none => host
    let path := match a.path with
      | some "" | none => defaultPath (version == 0) u
      | some p => escapePath p
    if a.lapsed == some true then return some ⟨domain, path, name, none⟩
    if 1 < version || a.domain.isSome && !domainAllowed host domain then return none
    return some ⟨domain, path, name, some ⟨value, a.secure == some true⟩⟩

end Cookie

namespace Jar

def follow (j : Jar) (o : CookieOrder) : Jar :=
  let paths := (Entries.get? j o.domain).getD []
  let names := (Entries.get? paths o.path).getD []
  match o.cookie with
  | some c => Entries.put j o.domain (Entries.put paths o.path (Entries.put names o.name c))
  | none =>
    if Entries.contains names o.name then
      Entries.put j o.domain (Entries.put paths o.path (names.filter (·.1 != o.name)))
    else j

/-- The jar after a response to a request for `u`: what has lapsed goes before anything is kept. -/
def keep (j : Jar) (u : Url) (lines : List String) : Jar :=
  let read := lines.map (Cookie.order u)
  if read.any fun r => match r with
    | .error .response => true
    | _ => false
  then j
  else
    let orders := read.filterMap fun r => match r with
      | .ok o => o
      | .error _ => none
    ((orders.filter (·.cookie.isNone)) ++ orders.filter (·.cookie.isSome)).foldl follow j

def domainFits (host domain : String) : Bool :=
  ("." ++ host).endsWith (if domain.startsWith "." then domain else "." ++ domain)

def pathFits (requested path : String) : Bool :=
  requested == path ||
    requested.startsWith path && (path.endsWith "/" || (requested.drop path.length).startsWith "/")

/-- What a request for `u` carries, the longest path first. -/
def header? (j : Jar) (u : Url) : Option String :=
  let fitting := j.flatMap fun (domain, paths) =>
    if !domainFits (Cookie.hostOf u) domain then []
    else paths.flatMap fun (path, names) =>
      if !pathFits (Cookie.pathOf u) path then []
      else
        let sent := names.filter fun (_, c) => !c.secure || u.scheme == "https"
        sent.map fun (n, c) => (path, n, c)
  let sorted := fitting.mergeSort fun (p, _, _) (q, _, _) => q.length ≤ p.length
  if sorted.isEmpty then none
  else some ("; ".intercalate (sorted.map fun (_, name, c) =>
    match c.value with
    | some v => name ++ "=" ++ v
    | none => name))

end Jar
end TestWorker.Web
