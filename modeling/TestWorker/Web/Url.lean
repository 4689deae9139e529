import TestWorker.Web.Host

namespace TestWorker.Web

inductive UrlError where
  | tooLong
  | componentTooLong (component : String)
  | unprintable (c : Char) (position : Nat)
  | componentUnprintable (component : String) (c : Char) (position : Nat)
  | badComponent (component : String)
  | badPort (port : String)
  | badIpv4 (host : String)
  | badIpv6 (host : String)
  | badName (host : String)
  | detachedPath
  | doubleSlash
  | leadingColon
  deriving DecidableEq, Repr

def UrlError.message : UrlError → String
  | tooLong => "URL too long"
  | componentTooLong k => "URL component '" ++ k ++ "' too long"
  | unprintable c i => "Invalid non-printable ASCII character in URL, " ++ Text.quote c.toString ++
      " at position " ++ toString i ++ "."
  | componentUnprintable k c i => "Invalid non-printable ASCII character in URL " ++ k ++
      " component, " ++ Text.quote c.toString ++ " at position " ++ toString i ++ "."
  | badComponent k => "Invalid URL component '" ++ k ++ "'"
  | badPort p => "Invalid port: " ++ Text.quote p
  | badIpv4 h => "Invalid IPv4 address: " ++ Text.quote h
  | badIpv6 h => "Invalid IPv6 address: " ++ Text.quote h
  | badName h => "Invalid IDNA hostname: " ++ Text.quote h
  | detachedPath => "For absolute URLs, path must be empty or begin with '/'"
  | doubleSlash => "Relative URLs cannot have a path starting with '//'"
  | leadingColon => "Relative URLs cannot have a path starting with ':'"

/-- An address in normal form. No query differs from an empty one. -/
structure Url where
  scheme : String := ""
  userinfo : String := ""
  host : String := ""
  port : Option Int := none
  path : String := ""
  query : Option String := none
  fragment : Option String := none
  deriving DecidableEq, Repr

def isGraphic (c : Char) : Bool := 33 ≤ c.toNat && c.toNat ≤ 126

def fragmentSafe (c : Char) : Bool := isGraphic c && !List.contains ['"', '<', '>', '`'] c

def querySafe (c : Char) : Bool := isGraphic c && !List.contains ['"', '#', '<', '>'] c

def pathSafe (c : Char) : Bool := querySafe c && !List.contains ['?', '`', '\x7b', '\x7d'] c

def userinfoSafe (c : Char) : Bool :=
  pathSafe c && !List.contains ['/', ';', '=', '@', '[', '\\', ']', '^', '|'] c

def hostSafe (c : Char) : Bool :=
  ['!', '$', '&', '\'', '(', ')', '*', '+', ',', ';', '=', '"',
    '`', '\x7b', '\x7d', '%', '|', '\\'].contains c

/-- The parts of a text before they are made normal. -/
structure Parts where
  scheme : String := ""
  userinfo : String := ""
  host : String := ""
  port : String := ""
  path : String := ""
  query : Option String := none
  fragment : Option String := none

def isSchemeChar (c : Char) : Bool := c.isAlphanum || c == '+' || c == '.' || c == '-'

/-- A scheme starts with a letter; a colon in front of everything counts as an empty one. -/
def splitScheme (cs : List Char) : List Char × List Char :=
  match cs with
  | ':' :: rest => ([], rest)
  | c :: _ =>
    if c.isAlpha then
      match cs.dropWhile isSchemeChar with
      | ':' :: rest => (cs.takeWhile isSchemeChar, rest)
      | _ => ([], cs)
    else ([], cs)
  | [] => ([], [])

/-- What stands before and after the last of a character. -/
def splitLast (c : Char) (cs : List Char) : Option (List Char × List Char) :=
  match cs.reverse.dropWhile (· != c) with
  | [] => none
  | _ :: before => some (before.reverse, (cs.reverse.takeWhile (· != c)).reverse)

/-- User, host and port. -/
def splitAuthority (cs : List Char) : List Char × List Char × List Char :=
  let (user, rest) := (splitLast '@' cs).getD ([], cs)
  let (host, rest) := match rest with
    | '[' :: _ =>
      match splitLast ']' rest with
      | some (before, after) => (before ++ [']'], after)
      | none => (rest.takeWhile (· != ':'), rest.dropWhile (· != ':'))
    | _ => (rest.takeWhile (· != ':'), rest.dropWhile (· != ':'))
  match rest with
  | ':' :: port => (user, host, port)
  | port => (user, host, port)

def str (cs : List Char) : String := String.ofList cs

/-- Authority, path, query and fragment of what follows the scheme. -/
def splitRest (cs : List Char) : List Char × List Char × Option (List Char) × Option (List Char) :=
  let stopsAuthority (c : Char) : Bool := c == '/' || c == '?' || c == '#'
  let (authority, rest) := match cs with
    | '/' :: '/' :: r => (r.takeWhile (!stopsAuthority ·), r.dropWhile (!stopsAuthority ·))
    | r => ([], r)
  let stopsPath (c : Char) : Bool := c == '?' || c == '#'
  let path := rest.takeWhile (!stopsPath ·)
  let (query, rest) := match rest.dropWhile (!stopsPath ·) with
    | '?' :: r => (some (r.takeWhile (· != '#')), r.dropWhile (· != '#'))
    | r => (none, r)
  let fragment := match rest with
    | '#' :: r => some r
    | _ => none
  (authority, path, query, fragment)

def Parts.ofText (s : String) : Parts :=
  let (scheme, rest) := splitScheme s.toList
  let (authority, path, query, fragment) := splitRest rest
  let (user, host, port) := splitAuthority authority
  ⟨str scheme, str user, str host, str port, str path, query.map str, fragment.map str⟩

def normalHost (host : String) : Except UrlError String :=
  let cs := host.toList
  if cs.isEmpty then .ok ""
  else if looksDotted host then
    if isIpv4 cs then .ok host else .error (.badIpv4 host)
  else if cs.head? == some '[' && cs.getLast? == some ']' then
    let inner := (cs.drop 1).dropLast
    if isIpv6 inner then .ok (str inner) else .error (.badIpv6 host)
  else if cs.all Text.isAscii then .ok (quote hostSafe (Text.asciiLower host))
  else match asciiName? (Text.lower host) with
    | some name => .ok name
    | none => .error (.badName host)

def defaultPort? : String → Option Int
  | "ftp" => some 21
  | "http" | "ws" => some 80
  | "https" | "wss" => some 443
  | _ => none

/-- The default port of the scheme is left out. -/
def normalPort (port scheme : String) : Except UrlError (Option Int) :=
  if port.isEmpty then .ok none
  else match Number.int? port with
    | none => .error (.badPort port)
    | some n => .ok (if defaultPort? scheme == some n then none else some n)

/-- Segments without the single dots, and without a segment and the double dot after it. -/
def dropDots (segments : List (List Char)) : List (List Char) :=
  segments.foldl (fun out s =>
    if s == ['.'] then out
    else if s == ['.', '.'] then (if out.isEmpty || out == [[]] then out else out.dropLast)
    else out ++ [s]) []

def joinSegments (segments : List (List Char)) : List Char := ['/'].intercalate segments

def normalPath (path : String) : String :=
  str (joinSegments (dropDots (Text.splitChars (· == '/') path.toList)))

def checkPath (path : List Char) (scheme authority : Bool) : Except UrlError Unit :=
  if authority && !path.isEmpty && path.head? != some '/' then .error .detachedPath
  else if !scheme && !authority && ['/', '/'].isPrefixOf path then .error .doubleSlash
  else if !scheme && !authority && path.head? == some ':' then .error .leadingColon
  else .ok ()

namespace Url

def ofParts (p : Parts) : Except UrlError Url := do
  let host ← normalHost p.host
  let port ← normalPort p.port p.scheme
  let userinfo := quote userinfoSafe p.userinfo
  let authority := !userinfo.isEmpty || !host.isEmpty || port.isSome
  checkPath p.path.toList (!p.scheme.isEmpty) authority
  let path := if !p.scheme.isEmpty || authority then normalPath p.path else p.path
  return {
    scheme := Text.asciiLower p.scheme, userinfo, host, port
    path := quote pathSafe path
    query := p.query.map (quote querySafe)
    fragment := p.fragment.map (quote fragmentSafe) }

def maxLength : Nat := 65536

def unprintable? (s : String) : Option (Nat × Char) :=
  (s.toList.zipIdx.find? fun (c, _) => Text.isAscii c && !Text.isPrintable c).map
    fun (c, i) => (i, c)

def parse (s : String) : Except UrlError Url := do
  if maxLength < s.length then throw .tooLong
  match unprintable? s with
  | some (i, c) => throw (.unprintable c i)
  | none => ofParts (Parts.ofText s)

def bracketed (host : String) : String :=
  if host.toList.contains ':' then "[" ++ host ++ "]" else host

def portText (u : Url) : String :=
  match u.port with
  | some p => ":" ++ toString p
  | none => ""

def netloc (u : Url) : String := bracketed u.host ++ u.portText

def authority (u : Url) : String :=
  (if u.userinfo.isEmpty then "" else u.userinfo ++ "@") ++ u.netloc

def text (u : Url) : String :=
  (if u.scheme.isEmpty then "" else u.scheme ++ ":") ++
  (if u.authority.isEmpty then "" else "//" ++ u.authority) ++ u.path ++
  (match u.query with
    | some q => "?" ++ q
    | none => "") ++
  (match u.fragment with
    | some f => "#" ++ f
    | none => "")

def isAbsolute (u : Url) : Bool := !u.scheme.isEmpty && !u.host.isEmpty

def hostName (u : Url) : String := if u.host.startsWith "xn--" then unicodeName u.host else u.host

def plainPath (u : Url) : String := unquote (if u.path.isEmpty then "/" else u.path)

def target (u : Url) : String :=
  (if u.path.isEmpty then "/" else u.path) ++
  (match u.query with
    | some q => "?" ++ q
    | none => "")

def portOrDefault (u : Url) : Option Int := u.port.orElse fun _ => defaultPort? u.scheme

def checkComponent (key : String) (allowed : Char → Bool) (s : String) : Except UrlError Unit := do
  if maxLength < s.length then throw (.componentTooLong key)
  match unprintable? s with
  | some (i, c) => throw (.componentUnprintable key c i)
  | none => if s.toList.all allowed then .ok () else .error (.badComponent key)

/-- The address made again from its components. -/
def rebuild (u : Url) : Except UrlError Url := do
  checkComponent "path" (fun c => c != '?' && c != '#') u.path
  match u.query with
  | some q => checkComponent "query" (· != '#') q
  | none => pure ()
  ofParts {
    scheme := u.scheme, userinfo := u.userinfo, host := bracketed u.host
    port := (u.port.map toString).getD "", path := u.path
    query := u.query, fragment := u.fragment }

def withQuery (u : Url) (query : Option String) : Except UrlError Url := rebuild { u with query }

def withHost (u : Url) (host : String) : Except UrlError Url := rebuild { u with host }

def withFragment (u : Url) (fragment : Option String) : Except UrlError Url :=
  rebuild { u with fragment }

/-- An address without a host becomes a path from the root, without its fragment. -/
def rooted (u : Url) : Except UrlError Url :=
  let path := '/' :: (u.target.toList.takeWhile (· != '?')).dropWhile (· == '/')
  rebuild { path := str path, query := u.query }

/-- Schemes whose references may be relative. -/
def relativeSchemes : List String :=
  ["", "ftp", "http", "gopher", "nntp", "imap", "wais", "file", "https", "shttp", "mms",
    "prospero", "rtsp", "rtspu", "sftp", "svn", "svn+ssh", "ws", "wss"]

/-- Double dots in a joined path go one segment up, and never above the root. -/
def climb (segments : List (List Char)) : List (List Char) :=
  segments.foldl (fun out s =>
    if s == ['.', '.'] then out.dropLast
    else if s == ['.'] then out
    else out ++ [s]) []

/-- The path of a reference that has no authority, against the path of its base. -/
def joinPath (base reference : List Char) : List Char :=
  let baseSegments := Text.splitChars (· == '/') base
  let baseSegments := match baseSegments.getLast? with
    | some [] => baseSegments
    | _ => baseSegments.dropLast
  let segments :=
    if reference.head? == some '/' then Text.splitChars (· == '/') reference
    else
      let all := baseSegments ++ Text.splitChars (· == '/') reference
      match all with
      | [] => []
      | first :: rest =>
        first :: (rest.dropLast.filter (!·.isEmpty)) ++ rest.getLast?.toList
  let ends := segments.getLast? == some ['.'] || segments.getLast? == some ['.', '.']
  let out := climb segments
  let out := if ends then out ++ [[]] else out
  let joined := joinSegments out
  if joined.isEmpty then ['/'] else joined

/-- What a reference means where `base` is read. -/
def join (base reference : Url) : Except UrlError Url :=
  if base.scheme != reference.scheme && !reference.scheme.isEmpty then parse reference.text
  else if !relativeSchemes.contains base.scheme then parse reference.text
  else if !reference.authority.isEmpty then parse { reference with scheme := base.scheme }.text
  else if reference.path.isEmpty then
    let query := match reference.query with
      | some q => if q.isEmpty then base.query else some q
      | none => base.query
    parse { base with query, fragment := reference.fragment }.text
  else
    let path := str (joinPath base.path.toList reference.path.toList)
    parse { base with path, query := reference.query, fragment := reference.fragment }.text

def sameOrigin (u v : Url) : Bool :=
  u.scheme == v.scheme && u.hostName == v.hostName && u.portOrDefault == v.portOrDefault

end Url
end TestWorker.Web
