import TestWorker.Text.Letters

namespace TestWorker.Placeholder

structure Token where
  before : List Char
  key : List Char
  after : List Char
  deriving DecidableEq, Repr

def isKeyChar (c : Char) : Bool := Text.isWord c || c == '.' || c == '-'

namespace Token

def name (t : Token) : String := String.ofList t.key

def written (t : Token) : List Char :=
  '{' :: '{' :: t.before ++ t.key ++ t.after ++ ['}', '}']

/-- The token at the head of a text, and what follows it. -/
def read? : List Char → Option (Token × List Char)
  | '{' :: '{' :: rest =>
    let inner := rest.dropWhile Text.isBlank
    let tail := inner.dropWhile isKeyChar
    let key := inner.takeWhile isKeyChar
    match tail.dropWhile Text.isBlank with
    | '}' :: '}' :: rest' =>
      if key.isEmpty then none
      else some (⟨rest.takeWhile Text.isBlank, key, tail.takeWhile Text.isBlank⟩, rest')
    | _ => none
  | _ => none

theorem length_dropWhile_le (p : Char → Bool) (cs : List Char) :
    (cs.dropWhile p).length ≤ cs.length :=
  (List.dropWhile_sublist p).length_le

theorem length_lt_of_read? {cs : List Char} {t : Token} {rest : List Char}
    (h : read? cs = some (t, rest)) : rest.length < cs.length := by
  unfold read? at h
  split at h
  · rename_i body
    dsimp only at h
    split at h
    · rename_i rest' heq
      split at h
      · simp at h
      · simp only [Option.some.injEq, Prod.mk.injEq] at h
        obtain ⟨-, rfl⟩ := h
        have h1 := length_dropWhile_le Text.isBlank
          ((body.dropWhile Text.isBlank).dropWhile isKeyChar)
        have h2 := length_dropWhile_le isKeyChar (body.dropWhile Text.isBlank)
        have h3 := length_dropWhile_le Text.isBlank body
        have h4 := congrArg List.length heq
        simp only [List.length_cons] at *
        omega
    · simp at h
  · simp at h

end Token

/-- A text is a run of plain characters and tokens. -/
inductive Segment where
  | plain (c : Char)
  | token (t : Token)
  deriving DecidableEq, Repr

def Segment.written : Segment → List Char
  | plain c => [c]
  | token t => t.written

/-- Each token is the leftmost one of what is left. -/
def split : List Char → List Segment
  | [] => []
  | c :: cs =>
    match _found : Token.read? (c :: cs) with
    | some (t, rest) => .token t :: split rest
    | none => .plain c :: split cs
termination_by cs => cs.length
decreasing_by
  · exact Token.length_lt_of_read? _found
  · simp

def segments (s : String) : List Segment := split s.toList

def tokens (s : String) : List Token :=
  (segments s).filterMap fun
    | .token t => some t
    | .plain _ => none

def occursIn (s : String) : Bool := !(tokens s).isEmpty

end TestWorker.Placeholder
