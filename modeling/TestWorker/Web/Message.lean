import TestWorker.Web.Url
import TestWorker.Json.Reader
import TestWorker.Fault

namespace TestWorker.Web

/-- Names are in lower case. -/
abbrev Headers := List (String × String)

namespace Headers

def values (h : Headers) (name : String) : List String := (h.filter (·.1 == name)).map (·.2)

def has (h : Headers) (name : String) : Bool := h.any (·.1 == name)

/-- All values of one name, joined. -/
def get? (h : Headers) (name : String) : Option String :=
  match h.values name with
  | [] => none
  | vs => some (", ".intercalate vs)

def drop (h : Headers) (name : String) : Headers := h.filter (·.1 != name)

def put (h : Headers) (name value : String) : Headers :=
  if h.has name then Entries.put (keepFirst h) name value else h ++ [(name, value)]
where
  keepFirst : Headers → Headers
    | [] => []
    | (n, v) :: r => if n == name then (n, v) :: drop r name else (n, v) :: keepFirst r

def orElse (h : Headers) (name value : String) : Headers :=
  if h.has name then h else h ++ [(name, value)]

/-- Each name once, where it came first, with its values joined. -/
def merged (h : Headers) : Headers :=
  (Entries.ofList h).map fun (n, _) => (n, (h.get? n).getD "")

end Headers

/-- A header as it goes over the wire: nothing outside ASCII. -/
def header (name value : String) : Except Fault (String × String) :=
  if !name.toList.all Text.isAscii then .error (.notAscii name)
  else if !value.toList.all Text.isAscii then .error (.notAscii value)
  else .ok (Text.asciiLower name, value)

structure Request where
  method : String
  url : Url
  headers : Headers
  body : Text.Bytes
  timeout : Option Double
  deriving Repr

structure Response where
  status : Nat
  headers : Headers
  body : Text.Bytes
  deriving Repr

def reasons : List (Nat × String) := [
  (100, "Continue"), (101, "Switching Protocols"), (102, "Processing"), (103, "Early Hints"),
  (200, "OK"), (201, "Created"), (202, "Accepted"), (203, "Non-Authoritative Information"),
  (204, "No Content"), (205, "Reset Content"), (206, "Partial Content"), (207, "Multi-Status"),
  (208, "Already Reported"), (226, "IM Used"), (300, "Multiple Choices"),
  (301, "Moved Permanently"), (302, "Found"), (303, "See Other"), (304, "Not Modified"),
  (305, "Use Proxy"), (307, "Temporary Redirect"), (308, "Permanent Redirect"),
  (400, "Bad Request"), (401, "Unauthorized"), (402, "Payment Required"), (403, "Forbidden"),
  (404, "Not Found"), (405, "Method Not Allowed"), (406, "Not Acceptable"),
  (407, "Proxy Authentication Required"), (408, "Request Timeout"), (409, "Conflict"),
  (410, "Gone"), (411, "Length Required"), (412, "Precondition Failed"),
  (413, "Request Entity Too Large"), (414, "Request-URI Too Long"),
  (415, "Unsupported Media Type"), (416, "Requested Range Not Satisfiable"),
  (417, "Expectation Failed"), (418, "I'm a teapot"), (421, "Misdirected Request"),
  (422, "Unprocessable Entity"), (423, "Locked"), (424, "Failed Dependency"), (425, "Too Early"),
  (426, "Upgrade Required"), (428, "Precondition Required"), (429, "Too Many Requests"),
  (431, "Request Header Fields Too Large"), (451, "Unavailable For Legal Reasons"),
  (500, "Internal Server Error"), (501, "Not Implemented"), (502, "Bad Gateway"),
  (503, "Service Unavailable"), (504, "Gateway Timeout"), (505, "HTTP Version Not Supported"),
  (506, "Variant Also Negotiates"), (507, "Insufficient Storage"), (508, "Loop Detected"),
  (510, "Not Extended"), (511, "Network Authentication Required")]

/-- Parts between semicolons, of which those inside quotes do not count. -/
def splitParameters (quoted : Bool) : List Char → List (List Char)
  | [] => [[]]
  | c :: cs =>
    if c == ';' && !quoted then [] :: splitParameters false cs
    else match splitParameters (quoted != (c == '"')) cs with
      | [] => [[c]]
      | part :: parts => (c :: part) :: parts

def charset? (contentType : String) : Option String :=
  ((splitParameters false contentType.toList).drop 1).findSome? fun part =>
    let name := Text.asciiLower (Text.strip (String.ofList (part.takeWhile (· != '='))))
    if name == "charset" && part.contains '=' then
      let value := Text.strip (String.ofList ((part.dropWhile (· != '=')).drop 1))
      some (Text.asciiLower (String.ofList (Text.stripChars (· == '"') value.toList)))
    else none

/-- How a body is read as text. -/
inductive Charset where
  | fixed (encoding : Text.Encoding)
  /-- A mark at the start may stand before the text. -/
  | marked8
  /-- The byte order comes from a mark at the start. -/
  | marked16
  | marked32
  deriving DecidableEq, Repr

namespace Charset

def names : List (Charset × List String) := [
  (.fixed .utf8, ["utf_8", "utf8", "u8", "utf", "cp65001", "utf8_ucs2", "utf8_ucs4"]),
  (.fixed .latin1,
    ["latin_1", "latin1", "latin", "l1", "iso_8859_1", "iso8859_1", "iso8859", "8859",
      "cp819", "iso_8859_1_1987", "iso_ir_100", "csisolatin1", "ibm819"]),
  (.fixed .ascii,
    ["ascii", "us_ascii", "us", "646", "ansi_x3.4_1968", "ansi_x3_4_1968", "cp367", "ibm367",
      "iso646_us", "iso_646.irv_1991", "iso_ir_6", "csascii", "ansi_x3.4_1986"]),
  (.fixed .windows1252, ["cp1252", "1252", "windows_1252"]),
  (.marked8, ["utf_8_sig"]),
  (.marked16, ["utf_16", "utf16", "u16"]),
  (.fixed (.utf16 .little), ["utf_16_le", "utf_16le", "unicodelittleunmarked"]),
  (.fixed (.utf16 .big), ["utf_16_be", "utf_16be", "unicodebigunmarked"]),
  (.marked32, ["utf_32", "utf32", "u32"]),
  (.fixed (.utf32 .little), ["utf_32_le", "utf_32le"]),
  (.fixed (.utf32 .big), ["utf_32_be", "utf_32be"])]

def plainName (name : String) : String :=
  let keep (c : Char) : Bool := c.isAlphanum || c == '.'
  "_".intercalate (((Text.splitChars (!keep ·) name.toList).filter (!·.isEmpty)).map String.ofList)

/-- The charset behind a name; nothing for a name that is not known. -/
def ofName? (name : String) : Option Charset :=
  (names.find? fun (_, all) => all.contains (plainName name)).map (·.1)

def unmarked (name : String) : Fault := .badEncoding (name ++ " stream does not start with BOM")

def read (c : Charset) (body : Text.Bytes) : Except Fault String :=
  match c with
  | fixed e => .ok (e.decodeLossy body)
  | marked8 => match body with
    | 0xEF :: 0xBB :: 0xBF :: rest => .ok (Text.Encoding.utf8.decodeLossy rest)
    | [0xEF] | [0xEF, 0xBB] => .ok ""
    | _ => .ok (Text.Encoding.utf8.decodeLossy body)
  | marked16 => match body with
    | [] => .ok ""
    | [_] => .ok Text.replacement.toString
    | a :: b :: rest =>
      if (a, b) = (0xFF, 0xFE) then .ok ((Text.Encoding.utf16 .little).decodeLossy rest)
      else if (a, b) = (0xFE, 0xFF) then .ok ((Text.Encoding.utf16 .big).decodeLossy rest)
      else .error (unmarked "UTF-16")
  | marked32 => match body with
    | 0xFF :: 0xFE :: 0 :: 0 :: rest => .ok ((Text.Encoding.utf32 .little).decodeLossy rest)
    | 0 :: 0 :: 0xFE :: 0xFF :: rest => .ok ((Text.Encoding.utf32 .big).decodeLossy rest)
    | [] => .ok ""
    | _ => if body.length < 4 then .ok Text.replacement.toString else .error (unmarked "UTF-32")

end Charset

namespace Response

/-- The length of the body is told when the headers do not tell one. -/
def create (status : Nat) (headers : List (String × String)) (body : Text.Bytes) :
    Except Fault Response := do
  let headers ← headers.mapM fun (n, v) => header n v
  let headers :=
    if body.isEmpty then headers else Headers.orElse headers "content-length" (toString body.length)
  return { status, headers, body }

def reason (r : Response) : String := (reasons.lookup r.status).getD ""

def isError (r : Response) : Bool := 400 ≤ r.status && r.status ≤ 599

def charset (r : Response) : Charset :=
  ((r.headers.get? "content-type").bind charset?).bind Charset.ofName? |>.getD (.fixed .utf8)

def text (r : Response) : Except Fault String := r.charset.read r.body

def data (r : Response) : Except Fault Value :=
  match Json.readBytes r.body with
  | .ok v => .ok v
  | .error _ => do return .text (← r.text)

def payload (r : Response) : Except Fault Entries := do
  let data ← r.data
  return [
    ("status", .int r.status), ("statusText", .text r.reason),
    ("headers", .object (r.headers.merged.map fun (n, v) => (n, .text v))),
    ("data", data), ("size", .int r.body.length)]

end Response
end TestWorker.Web
