namespace TestWorker.Text

abbrev Bytes := List UInt8

inductive ByteOrder where
  | little
  | big
  deriving DecidableEq, Repr

inductive Encoding where
  | ascii
  | latin1
  | windows1252
  | utf8
  | utf16 (order : ByteOrder)
  | utf32 (order : ByteOrder)
  deriving DecidableEq, Repr

def Encoding.name : Encoding → String
  | ascii => "ascii"
  | latin1 => "latin-1"
  | windows1252 => "cp1252"
  | utf8 => "utf-8"
  | utf16 .little => "utf-16-le"
  | utf16 .big => "utf-16-be"
  | utf32 .little => "utf-32-le"
  | utf32 .big => "utf-32-be"

/-- A character, or what is wrong with this many bytes. -/
inductive Piece where
  | char (c : Char) (width : Nat)
  | flaw (reason : String) (width : Nat)
  deriving Repr

def Piece.width : Piece → Nat
  | char _ n => n
  | flaw _ n => n

def replacement : Char := Char.ofNat 0xFFFD

def Piece.replaced : Piece → Char
  | char c _ => c
  | flaw _ _ => replacement

def isTail (b : UInt8) : Bool := 0x80 ≤ b && b ≤ 0xBF

/-- Which second bytes may follow a lead byte of three or four. -/
def secondAllowed (lead second : UInt8) : Bool :=
  if lead = 0xE0 then 0xA0 ≤ second && second ≤ 0xBF
  else if lead = 0xED then 0x80 ≤ second && second ≤ 0x9F
  else if lead = 0xF0 then 0x90 ≤ second && second ≤ 0xBF
  else if lead = 0xF4 then 0x80 ≤ second && second ≤ 0x8F
  else isTail second

def low6 (b : UInt8) : Nat := b.toNat % 64

/-- The piece that a byte starts. -/
def utf8Piece (a : UInt8) (rest : Bytes) : Piece :=
  let cut := "unexpected end of data"
  let broken := "invalid continuation byte"
  if a < 0x80 then .char (Char.ofNat a.toNat) 1
  else if a < 0xC2 || 0xF4 < a then .flaw "invalid start byte" 1
  else if a < 0xE0 then
    match rest with
    | [] => .flaw cut 1
    | b :: _ =>
      if isTail b then .char (Char.ofNat (a.toNat % 32 * 64 + low6 b)) 2 else .flaw broken 1
  else if a < 0xF0 then
    match rest with
    | [] => .flaw cut 1
    | b :: rest =>
      if !secondAllowed a b then .flaw broken 1
      else match rest with
        | [] => .flaw cut 2
        | c :: _ =>
          if isTail c then .char (Char.ofNat (a.toNat % 16 * 4096 + low6 b * 64 + low6 c)) 3
          else .flaw broken 2
  else
    match rest with
    | [] => .flaw cut 1
    | b :: rest =>
      if !secondAllowed a b then .flaw broken 1
      else match rest with
        | [] => .flaw cut 2
        | c :: rest =>
          if !isTail c then .flaw broken 2
          else match rest with
            | [] => .flaw cut 3
            | d :: _ =>
              if isTail d then
                .char (Char.ofNat (a.toNat % 8 * 262144 + low6 b * 4096 + low6 c * 64 + low6 d)) 4
              else .flaw broken 3

/-- Three bytes that would be a surrogate, half of a character that takes two units. -/
def isSurrogate (a : UInt8) : Bytes → Bool
  | b :: c :: _ => a = 0xED && 0xA0 ≤ b && b ≤ 0xBF && isTail c
  | _ => false

/-- Surrogates may be let through, as replacement characters. -/
def utf8Pieces (surrogates : Bool) : Bytes → List Piece
  | [] => []
  | a :: rest =>
    let p := if surrogates && isSurrogate a rest then .char replacement 3 else utf8Piece a rest
    p :: utf8Pieces surrogates (rest.drop (p.width - 1))
termination_by bytes => bytes.length
decreasing_by simp only [List.length_drop, List.length_cons]; omega

def unit (order : ByteOrder) (a b : UInt8) : Nat :=
  match order with
  | .little => a.toNat + 256 * b.toNat
  | .big => 256 * a.toNat + b.toNat

def isHigh (u : Nat) : Bool := 0xD800 ≤ u && u ≤ 0xDBFF
def isLow (u : Nat) : Bool := 0xDC00 ≤ u && u ≤ 0xDFFF

def joinSurrogates (h l : Nat) : Char := Char.ofNat (0x10000 + (h - 0xD800) * 1024 + (l - 0xDC00))

def utf16Piece (order : ByteOrder) (a : UInt8) : Bytes → Piece
  | [] => .flaw "truncated data" 1
  | b :: rest =>
    let u := unit order a b
    if isLow u then .flaw "illegal encoding" 2
    else if isHigh u then
      match rest with
      | c :: d :: _ =>
        let l := unit order c d
        if isLow l then .char (joinSurrogates u l) 4 else .flaw "illegal UTF-16 surrogate" 2
      | short => .flaw "unexpected end of data" (2 + short.length)
    else .char (Char.ofNat u) 2

def utf16Pieces (order : ByteOrder) : Bytes → List Piece
  | [] => []
  | a :: rest =>
    let p := utf16Piece order a rest
    p :: utf16Pieces order (rest.drop (p.width - 1))
termination_by bytes => bytes.length
decreasing_by simp only [List.length_drop, List.length_cons]; omega

def utf32Pieces (order : ByteOrder) : Bytes → List Piece
  | [] => []
  | a :: b :: c :: d :: rest =>
    let n := match order with
      | .little => unit .little a b + 65536 * unit .little c d
      | .big => 65536 * unit .big a b + unit .big c d
    let p : Piece :=
      if isHigh n || isLow n then .flaw "code point in surrogate code point range(0xd800, 0xe000)" 4
      else if 0x110000 ≤ n then .flaw "code point not in range(0x110000)" 4
      else .char (Char.ofNat n) 4
    p :: utf32Pieces order rest
  | short => [.flaw "truncated data" short.length]

/-- The characters of the bytes from 0x80 to 0x9F, zero for a byte that has none. -/
def windowsTable : List Nat := [
  0x20AC, 0, 0x201A, 0x0192, 0x201E, 0x2026, 0x2020, 0x2021,
  0x02C6, 0x2030, 0x0160, 0x2039, 0x0152, 0,
  0x017D, 0, 0, 0x2018, 0x2019, 0x201C, 0x201D, 0x2022, 0x2013,
  0x2014, 0x02DC, 0x2122, 0x0161, 0x203A,
  0x0153, 0, 0x017E, 0x0178]

def windowsPiece (b : UInt8) : Piece :=
  if b < 0x80 || 0xA0 ≤ b then .char (Char.ofNat b.toNat) 1
  else match windowsTable[b.toNat - 0x80]?.getD 0 with
    | 0 => .flaw "character maps to <undefined>" 1
    | n => .char (Char.ofNat n) 1

def Encoding.pieces : Encoding → Bytes → List Piece
  | ascii, bs => bs.map fun b =>
      if b < 0x80 then .char (Char.ofNat b.toNat) 1 else .flaw "ordinal not in range(128)" 1
  | latin1, bs => bs.map fun b => .char (Char.ofNat b.toNat) 1
  | windows1252, bs => bs.map windowsPiece
  | utf8, bs => utf8Pieces false bs
  | utf16 o, bs => utf16Pieces o bs
  | utf32 o, bs => utf32Pieces o bs

/-- Every run of bytes without a meaning becomes one replacement character. -/
def Encoding.decodeLossy (e : Encoding) (bs : Bytes) : String :=
  String.ofList ((e.pieces bs).map Piece.replaced)

/-- Where and why decoding stopped. -/
structure DecodeError where
  encoding : Encoding
  reason : String
  position : Nat
  bad : Bytes
  deriving Repr

def byteHex (b : UInt8) : String :=
  let digit (n : Nat) : Char := Nat.digitChar (n % 16)
  String.ofList ['0', 'x', digit (b.toNat / 16), digit b.toNat]

def DecodeError.message (e : DecodeError) : String :=
  let what := match e.bad with
    | [b] => "byte " ++ byteHex b ++ " in position " ++ toString e.position
    | bs =>
      "bytes in position " ++ toString e.position ++ "-" ++ toString (e.position + bs.length - 1)
  "'" ++ e.encoding.name ++ "' codec can't decode " ++ what ++ ": " ++ e.reason

/-- Characters up to the first flaw that is not a lone surrogate; those are let through as
replacement characters. -/
def collect (e : Encoding) (bytes : Bytes) (start : Nat) :
    List Piece → Except DecodeError (List Char)
  | [] => .ok []
  | .char c n :: ps => do return c :: (← collect e bytes (start + n) ps)
  | .flaw reason n :: ps =>
    let surrogate : Bool := match e with
      | .utf16 _ => 2 ≤ n
      | .utf32 _ => reason.startsWith "code point in"
      | _ => false
    if surrogate then do return replacement :: (← collect e bytes (start + n) ps)
    else .error ⟨e, reason, start, (bytes.drop start).take n⟩

def Encoding.decode (e : Encoding) (bs : Bytes) : Except DecodeError String :=
  (collect e bs 0 (e.pieces bs)).map String.ofList

/-- Decodes what follows a mark of some bytes; surrogates are let through. -/
def Encoding.decodeAfter (e : Encoding) (mark : Nat) (bs : Bytes) : Except DecodeError String :=
  match e with
  | utf8 =>
    let rest := bs.drop mark
    (collect e rest 0 (utf8Pieces true rest)).map String.ofList
  | e => (collect e bs mark (e.pieces (bs.drop mark))).map String.ofList

def utf8Bytes (s : String) : Bytes := s.toUTF8.toList

end TestWorker.Text
