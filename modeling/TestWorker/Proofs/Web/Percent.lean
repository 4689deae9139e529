import TestWorker.Proofs.Placeholder.Token
import TestWorker.Proofs.Text.Utf8
import TestWorker.Web.Percent

namespace TestWorker.Web
open Text (utf8Bytes utf8Pieces)

def HexNext (cs : List Char) : Prop :=
  ∃ a b rest, cs = a :: b :: rest ∧ isHexDigit a = true ∧ isHexDigit b = true

theorem unquoteBytes_escape {a b : Char} (ha : isHexDigit a = true) (hb : isHexDigit b = true)
    (cs : List Char) : unquoteBytes ('%' :: a :: b :: cs) = hexByte a b :: unquoteBytes cs := by
  rw [unquoteBytes, ha, hb]
  rfl

theorem unquoteBytes_cons {c : Char} {cs : List Char} (h : ¬(c = '%' ∧ HexNext cs)) :
    unquoteBytes (c :: cs) = String.utf8EncodeChar c ++ unquoteBytes cs := by
  rw [← Text.utf8Bytes_toString]
  by_cases hc : c = '%'
  · subst hc
    have hpercent : utf8Bytes '%'.toString = [37] := by decide +kernel
    rw [hpercent]
    match cs with
    | [] => rw [unquoteBytes, hpercent]; simp
    | [a] => rw [unquoteBytes, hpercent]; simp
    | a :: b :: rest =>
      have hdigits : ¬(isHexDigit a && isHexDigit b) = true := by
        intro hab
        obtain ⟨ha, hb⟩ := Bool.and_eq_true_iff.1 hab
        exact h ⟨rfl, a, b, rest, rfl, ha, hb⟩
      rw [unquoteBytes, if_neg hdigits]
      rfl
  · rw [unquoteBytes]
    intro a b rest hchar
    exact absurd hchar hc

/-- A text is read from the left, an escape or a character at a time. -/
theorem escape_induction {P : List Char → Prop} (nil : P [])
    (escape : ∀ a b cs, isHexDigit a = true → isHexDigit b = true → P cs → P ('%' :: a :: b :: cs))
    (char : ∀ c cs, ¬(c = '%' ∧ HexNext cs) → P cs → P (c :: cs)) (cs : List Char) : P cs := by
  fun_induction unquoteBytes cs with
  | case1 a b cs hdigits ih =>
    obtain ⟨ha, hb⟩ := Bool.and_eq_true_iff.1 hdigits
    exact escape a b cs ha hb ih
  | case2 a b cs hdigits ih =>
    refine char '%' (a :: b :: cs) ?_ ih
    rintro ⟨-, a', b', rest, hcs, ha, hb⟩
    cases hcs
    exact hdigits (by rw [ha, hb]; rfl)
  | case3 c cs hplain ih =>
    refine char c cs ?_ ih
    rintro ⟨rfl, a, b, rest, rfl, -⟩
    exact hplain a b rest rfl rfl
  | case4 => exact nil

theorem unquoteBytes_percentByte (b : UInt8) (cs : List Char) :
    unquoteBytes (percentByte b ++ cs) = b :: unquoteBytes cs := by
  have hdigits : ∀ n < 256, isHexDigit (Text.upperHexDigit (n / 16)) = true ∧
      isHexDigit (Text.upperHexDigit n) = true ∧
      hexByte (Text.upperHexDigit (n / 16)) (Text.upperHexDigit n) = UInt8.ofNat n := by
    decide +kernel
  obtain ⟨hhigh, hlow, hbyte⟩ := hdigits b.toNat b.toNat_lt
  rw [percentByte, List.cons_append, List.cons_append, List.cons_append, List.nil_append,
    unquoteBytes_escape hhigh hlow, hbyte, UInt8.ofNat_toNat]

theorem unquoteBytes_percentChar (c : Char) (cs : List Char) :
    unquoteBytes (percentChar c ++ cs) = String.utf8EncodeChar c ++ unquoteBytes cs := by
  unfold percentChar
  rw [Text.utf8Bytes_toString]
  induction String.utf8EncodeChar c with
  | nil => rfl
  | cons b bytes ih =>
    rw [List.flatMap_cons, List.append_assoc, unquoteBytes_percentByte, ih, List.cons_append]

/-- What a character becomes where the percent sign is safe. -/
def quoteChar (safe : Char → Bool) (c : Char) : List Char :=
  if isUnreserved c || safe c then [c] else percentChar c

variable {safe : Char → Bool}

theorem quoteChars_cons (h : safe '%' = true) (c : Char) (cs : List Char) :
    quoteChars safe (c :: cs) = quoteChar safe c ++ quoteChars safe cs := by
  rw [quoteChars.eq_def, quoteChar]
  dsimp only
  cases hsafe : safe c with
  | true => simp only [Bool.or_true, Bool.true_or]
  | false =>
    have hc : (c == '%') = false := by
      rw [beq_eq_false_iff_ne]
      rintro rfl
      exact Bool.false_ne_true (hsafe.symm.trans h)
    simp only [hc, Bool.false_and, Bool.or_false]

theorem quoteChars_eq_flatMap (h : safe '%' = true) (cs : List Char) :
    quoteChars safe cs = cs.flatMap (quoteChar safe) := by
  induction cs with
  | nil => rfl
  | cons c cs ih => rw [quoteChars_cons h, List.flatMap_cons, ih]

theorem isAscii_of_isHexDigit {c : Char} (h : isHexDigit c = true) : Text.isAscii c = true := by
  have hlt : c.toNat < 128 := by
    simp only [isHexDigit, Bool.or_eq_true, Bool.and_eq_true, decide_eq_true_eq] at h
    rcases h with (h | ⟨-, h⟩) | ⟨-, h⟩
    · exact Nat.lt_of_le_of_lt (Char.isDigit_iff_toNat.1 h).2 (by decide)
    · exact Nat.lt_of_le_of_lt h (by decide)
    · exact Nat.lt_of_le_of_lt h (by decide)
  exact decide_eq_true hlt

theorem isUnreserved_of_isHexDigit {c : Char} (h : isHexDigit c = true) : isUnreserved c = true :=
  Text.forall_ascii (P := fun c => isHexDigit c = true → isUnreserved c = true) (by decide)
    (isAscii_of_isHexDigit h) h

theorem exists_percentChar (c : Char) : ∃ cs, percentChar c = '%' :: cs := by
  obtain ⟨a, tail, htail, -⟩ := Text.utf8Piece_encode c []
  rw [percentChar, Text.utf8Bytes_toString, htail]
  exact ⟨_, rfl⟩

theorem quoteChar_of_isHexDigit {c : Char} (h : isHexDigit c = true) : quoteChar safe c = [c] := by
  simp [quoteChar, isUnreserved_of_isHexDigit h]

theorem exists_of_quoted {a : Char} (ha : isHexDigit a = true) {cs rest : List Char}
    (h : cs.flatMap (quoteChar safe) = a :: rest) :
    ∃ cs', cs = a :: cs' ∧ cs'.flatMap (quoteChar safe) = rest := by
  cases cs with
  | nil => cases h
  | cons c cs =>
    rw [List.flatMap_cons, quoteChar] at h
    split at h
    · obtain ⟨rfl, hrest⟩ := List.cons.inj h
      exact ⟨cs, rfl, hrest⟩
    · obtain ⟨tail, htail⟩ := exists_percentChar c
      rw [htail] at h
      obtain ⟨rfl, -⟩ := List.cons.inj h
      exact absurd ha (by decide)

theorem hexNext_of_quoted {cs : List Char} (h : HexNext (cs.flatMap (quoteChar safe))) :
    HexNext cs := by
  obtain ⟨a, b, rest, hcs, ha, hb⟩ := h
  obtain ⟨cs', rfl, hcs'⟩ := exists_of_quoted ha hcs
  obtain ⟨cs'', rfl, -⟩ := exists_of_quoted hb hcs'
  exact ⟨a, b, cs'', rfl, ha, hb⟩

/-- Quoting adds no meaning and takes none away. -/
theorem unquoteBytes_quoteChars (h : safe '%' = true) (cs : List Char) :
    unquoteBytes (quoteChars safe cs) = unquoteBytes cs := by
  rw [quoteChars_eq_flatMap h]
  have hpercent : quoteChar safe '%' = ['%'] := by simp [quoteChar, h]
  induction cs using escape_induction with
  | nil => rfl
  | escape a b cs ha hb ih =>
    rw [List.flatMap_cons, List.flatMap_cons, List.flatMap_cons, hpercent,
      quoteChar_of_isHexDigit ha, quoteChar_of_isHexDigit hb, unquoteBytes_escape ha hb, ← ih]
    exact unquoteBytes_escape ha hb _
  | char c cs hplain ih =>
    rw [List.flatMap_cons, unquoteBytes_cons hplain, quoteChar]
    split
    · rw [List.singleton_append,
        unquoteBytes_cons fun hc => hplain ⟨hc.1, hexNext_of_quoted hc.2⟩, ih]
    · rw [unquoteBytes_percentChar, ih]

/-- An escape stands somewhere in the text. -/
def Escaped (cs : List Char) : Prop := ∃ before rest, cs = before ++ '%' :: rest ∧ HexNext rest

theorem escaped_cons {c : Char} {cs : List Char} :
    Escaped (c :: cs) ↔ c = '%' ∧ HexNext cs ∨ Escaped cs := by
  constructor
  · rintro ⟨before, rest, hcs, hnext⟩
    cases before with
    | nil =>
      cases hcs
      exact .inl ⟨rfl, hnext⟩
    | cons _ before =>
      cases hcs
      exact .inr ⟨before, rest, rfl, hnext⟩
  · rintro (⟨rfl, hnext⟩ | ⟨before, rest, rfl, hnext⟩)
    · exact ⟨[], cs, rfl, hnext⟩
    · exact ⟨c :: before, rest, rfl, hnext⟩

theorem unquoteBytes_of_not_escaped {cs : List Char} (h : ¬Escaped cs) :
    unquoteBytes cs = cs.flatMap String.utf8EncodeChar := by
  induction cs with
  | nil => rfl
  | cons c cs ih =>
    rw [escaped_cons, not_or] at h
    rw [unquoteBytes_cons h.1, ih h.2, List.flatMap_cons]

theorem unquote_of_not_escaped {s : String} (h : ¬Escaped s.toList) : unquote s = s := by
  rw [unquote, unquoteBytes_of_not_escaped h, ← Text.utf8Bytes_ofList, String.ofList_toList,
    Text.decodeLossy_utf8Bytes]

/-- An escape stands for one character at most, or for a part of one. -/
theorem length_pieces_unquoteBytes (cs : List Char) :
    (utf8Pieces false (unquoteBytes cs)).length ≤ cs.length ∧
      (Escaped cs → (utf8Pieces false (unquoteBytes cs)).length < cs.length) := by
  induction cs using escape_induction with
  | nil => exact ⟨by simp [unquoteBytes, utf8Pieces], by rintro ⟨before, rest, h, -⟩; simp at h⟩
  | escape a b cs ha hb ih =>
    have hbyte := Text.length_utf8Pieces_cons (hexByte a b) (unquoteBytes cs)
    rw [unquoteBytes_escape ha hb]
    simp only [List.length_cons]
    omega
  | char c cs hplain ih =>
    obtain ⟨n, hn⟩ := Text.utf8Pieces_encode c (unquoteBytes cs)
    rw [unquoteBytes_cons hplain, hn, List.length_cons, List.length_cons, escaped_cons]
    refine ⟨Nat.succ_le_succ ih.1, ?_⟩
    rintro (hescape | hescape)
    · exact absurd hescape hplain
    · exact Nat.succ_lt_succ (ih.2 hescape)

theorem length_unquote (s : String) :
    (unquote s).length = (utf8Pieces false (unquoteBytes s.toList)).length := by
  rw [unquote, Text.Encoding.decodeLossy, String.length_ofList, List.length_map]
  rfl

end TestWorker.Web
