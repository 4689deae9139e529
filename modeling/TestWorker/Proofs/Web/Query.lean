import TestWorker.Proofs.Web.Address
import TestWorker.Proofs.Web.Path
import TestWorker.Web.Query

namespace TestWorker

namespace Text
variable {cut : Char → Bool} {f : Char → List Char}

theorem splitChars_append_of_forall {cs : List Char} (h : ∀ c ∈ cs, cut c = false)
    {rest p : List Char} {ps : List (List Char)} (hrest : splitChars cut rest = p :: ps) :
    splitChars cut (cs ++ rest) = (cs ++ p) :: ps := by
  induction cs with
  | nil => exact hrest
  | cons c cs ih =>
    obtain ⟨hc, hcs⟩ := List.forall_mem_cons.1 h
    obtain ⟨q, qs, hsplit, hcons⟩ := splitChars_cons hc (cs ++ rest)
    rw [ih hcs] at hsplit
    cases hsplit
    exact hcons

/-- Where only the cuts stand for themselves and make no other, a text is cut as before. -/
theorem splitChars_flatMap (hcut : ∀ c, cut c = true → f c = [c])
    (hplain : ∀ c, cut c = false → ∀ d ∈ f c, cut d = false) (cs : List Char) :
    splitChars cut (cs.flatMap f) = (splitChars cut cs).map (·.flatMap f) := by
  induction cs with
  | nil => rfl
  | cons c cs ih =>
    rw [List.flatMap_cons]
    cases hc : cut c with
    | true =>
      rw [hcut c hc, List.singleton_append, splitChars, splitChars, if_pos hc, if_pos hc, ih]
      rfl
    | false =>
      obtain ⟨p, ps, hsplit, hcons⟩ := splitChars_cons hc cs
      rw [hsplit] at ih
      rw [hcons, splitChars_append_of_forall (hplain c hc) ih]
      rfl

theorem splitChars_intercalate {sep : Char} (hsep : cut sep = true) {parts : List (List Char)}
    (hne : parts ≠ []) (h : ∀ part ∈ parts, ∀ c ∈ part, cut c = false) :
    splitChars cut ([sep].intercalate parts) = parts := by
  induction parts with
  | nil => exact absurd rfl hne
  | cons part parts ih =>
    obtain ⟨hpart, hparts⟩ := List.forall_mem_cons.1 h
    cases parts with
    | nil => simpa [List.intercalate] using splitChars_of_forall hpart
    | cons next parts =>
      rw [List.intercalate_cons_cons, List.append_assoc, List.singleton_append,
        splitChars_append hpart hsep, ih (List.cons_ne_nil _ _) hparts]

end Text

namespace Web
open Text (splitChars)

theorem of_mem_percentChar {c d : Char} (h : d ∈ percentChar c) :
    d = '%' ∨ isHexDigit d = true := by
  have hbyte : ∀ n < 256,
      (percentByte (UInt8.ofNat n)).all (fun d => d == '%' || isHexDigit d) = true := by
    decide +kernel
  obtain ⟨b, -, hb⟩ := List.mem_flatMap.1 h
  have hall := hbyte b.toNat b.toNat_lt
  rw [UInt8.ofNat_toNat, List.all_eq_true] at hall
  simpa using hall d hb

def isMark (c : Char) : Bool := c == '&' || c == '=' || c == '+'

theorem isMark_of_mem_percentChar {c d : Char} (h : d ∈ percentChar c) : isMark d = false := by
  rcases of_mem_percentChar h with rfl | hd
  · decide
  · exact Text.forall_ascii (P := fun c => isHexDigit c = true → isMark c = false) (by decide)
      (isAscii_of_isHexDigit hd) hd

theorem isMark_of_isUnreserved {c : Char} (h : isUnreserved c = true) : isMark c = false := by
  refine Bool.eq_false_iff.2 fun hc => ?_
  simp only [isMark, Bool.or_eq_true, beq_iff_eq] at hc
  rcases hc with (rfl | rfl) | rfl <;> exact absurd h (by decide)

theorem formChar_spec {c d : Char} (h : d ∈ formChar c) : d = '+' ∧ c = ' ' ∨ isMark d = false := by
  unfold formChar at h
  split at h
  · next hc => exact .inl ⟨List.mem_singleton.1 h, beq_iff_eq.1 hc⟩
  split at h
  · next hc =>
    obtain rfl := List.mem_singleton.1 h
    exact .inr (isMark_of_isUnreserved hc)
  · exact .inr (isMark_of_mem_percentChar h)

def blankPlus (c : Char) : Char := if c == '+' then ' ' else c

theorem blankPlus_of_ne {c : Char} (h : c ≠ '+') : blankPlus c = c := if_neg (by simpa using h)

theorem blankPlus_of_isHexDigit {c : Char} (h : isHexDigit c = true) : blankPlus c = c := by
  apply blankPlus_of_ne
  rintro rfl
  exact absurd h (by decide)

theorem formUnquote_eq (cs : List Char) :
    formUnquote (String.ofList cs) =
      Text.Encoding.utf8.decodeLossy (unquoteBytes (cs.map blankPlus)) := by
  rw [formUnquote, unquote, String.toList_ofList, String.toList_ofList]
  rfl

theorem map_blankPlus_of_forall {cs : List Char} (h : ∀ c ∈ cs, isMark c = false) :
    cs.map blankPlus = cs := by
  refine (List.map_congr_left fun c hc => ?_).trans (List.map_id cs)
  apply blankPlus_of_ne
  rintro rfl
  exact absurd (h '+' hc) (by decide)

theorem unquoteBytes_form (cs : List Char) :
    unquoteBytes ((cs.flatMap formChar).map blankPlus) = cs.flatMap String.utf8EncodeChar := by
  induction cs with
  | nil => rfl
  | cons c cs ih =>
    rw [List.flatMap_cons, List.map_append, List.flatMap_cons, ← ih, formChar]
    split
    · next hc =>
      obtain rfl := beq_iff_eq.1 hc
      have hblank : ['+'].map blankPlus = [' '] := by decide
      rw [hblank]
      exact unquoteBytes_cons (by simp)
    split
    · next hc =>
      have hpercent : c ≠ '%' := by
        rintro rfl
        exact absurd hc (by decide)
      rw [map_blankPlus_of_forall (by simpa using isMark_of_isUnreserved hc)]
      exact unquoteBytes_cons (by simp [hpercent])
    · rw [map_blankPlus_of_forall fun d => isMark_of_mem_percentChar, unquoteBytes_percentChar]

theorem formUnquote_formQuote (s : String) : formUnquote (formQuote s) = s := by
  rw [formQuote, formUnquote_eq, unquoteBytes_form, ← Text.utf8Bytes_ofList, String.ofList_toList,
    Text.decodeLossy_utf8Bytes]

namespace Query

/-- The pairs of a query, in their order; parts without a character say nothing. -/
def read (s : String) : List (String × String) :=
  ((splitChars (· == '&') s.toList).filter (!·.isEmpty)).map pairOf

theorem pairOf_append {name value : List Char} (h : ∀ c ∈ name, c ≠ '=') :
    pairOf (name ++ '=' :: value) =
      (formUnquote (String.ofList name), formUnquote (String.ofList value)) := by
  have hname : ∀ c ∈ name, (c != '=') = true := fun c hc => bne_iff_ne.2 (h c hc)
  rw [pairOf, List.takeWhile_append_of_pos hname, List.dropWhile_append_of_pos hname]
  simp

theorem mark_of_mem_formQuote {s : String} {d : Char} (h : d ∈ (formQuote s).toList) :
    d ≠ '=' ∧ d ≠ '&' := by
  rw [formQuote, String.toList_ofList, List.mem_flatMap] at h
  obtain ⟨c, -, hd⟩ := h
  rcases formChar_spec hd with ⟨rfl, -⟩ | hmark
  · decide
  · constructor <;> rintro rfl <;> exact absurd hmark (by decide)

/-- The pairs that are written are read. -/
theorem read_text (q : Query) : read q.text = q.pairs := by
  have hlist : q.text.toList = ['&'].intercalate (q.pairs.map fun x =>
      (formQuote x.1).toList ++ '=' :: (formQuote x.2).toList) := by
    simp [text, Function.comp_def]
  rw [read, hlist]
  cases hpairs : q.pairs with
  | nil => rfl
  | cons x xs =>
    have hplain : ∀ part ∈ (x :: xs).map
        (fun x => (formQuote x.1).toList ++ '=' :: (formQuote x.2).toList),
        ∀ c ∈ part, (c == '&') = false := by
      intro part hpart c hc
      obtain ⟨y, -, rfl⟩ := List.mem_map.1 hpart
      rw [beq_eq_false_iff_ne]
      rcases List.mem_append.1 hc with hc | hc
      · exact (mark_of_mem_formQuote hc).2
      rcases List.mem_cons.1 hc with rfl | hc
      · decide
      · exact (mark_of_mem_formQuote hc).2
    have hwhole : ∀ part ∈ (x :: xs).map
        (fun x => (formQuote x.1).toList ++ '=' :: (formQuote x.2).toList),
        (!part.isEmpty) = true := by
      intro part hpart
      obtain ⟨y, -, rfl⟩ := List.mem_map.1 hpart
      simp
    rw [Text.splitChars_intercalate rfl (by simp) hplain,
      List.filter_eq_self.2 hwhole, List.map_map]
    refine (List.map_congr_left fun y _ => ?_).trans (List.map_id _)
    rw [Function.comp_apply, pairOf_append fun c hc => (mark_of_mem_formQuote hc).1,
      String.ofList_toList, String.ofList_toList, formUnquote_formQuote, formUnquote_formQuote]
    rfl

variable {safe : Char → Bool}

theorem hexNext_of_blankPlus {cs : List Char} (h : HexNext (cs.map blankPlus)) : HexNext cs := by
  have hsame : ∀ c, isHexDigit (blankPlus c) = true → blankPlus c = c := by
    intro c hc
    apply blankPlus_of_ne
    rintro rfl
    exact absurd hc (by decide)
  obtain ⟨a, b, rest, hcs, ha, hb⟩ := h
  obtain ⟨a', cs', rfl, rfl, hcs'⟩ := List.map_eq_cons_iff.1 hcs
  obtain ⟨b', cs'', rfl, rfl, -⟩ := List.map_eq_cons_iff.1 hcs'
  exact ⟨a', b', cs'', rfl, by rwa [hsame a' ha] at ha, by rwa [hsame b' hb] at hb⟩

theorem eq_percent_of_blankPlus {c : Char} (h : blankPlus c = '%') : c = '%' := by
  unfold blankPlus at h
  split at h
  · cases h
  · exact h

/-- Where percent and plus are safe, a quoted part says what it said. -/
theorem unquoteBytes_quoted (hpercent : safe '%' = true) (hplus : safe '+' = true)
    (cs : List Char) :
    unquoteBytes ((cs.flatMap (quoteChar safe)).map blankPlus) =
      unquoteBytes (cs.map blankPlus) := by
  have hsame : quoteChar safe '%' = ['%'] := by simp [quoteChar, hpercent]
  induction cs using escape_induction with
  | nil => rfl
  | escape a b cs ha hb ih =>
    have hmark : blankPlus '%' = '%' := by decide
    rw [List.flatMap_cons, List.flatMap_cons, List.flatMap_cons, hsame, quoteChar_of_isHexDigit ha,
      quoteChar_of_isHexDigit hb]
    simp only [List.singleton_append, List.map_cons, hmark, blankPlus_of_isHexDigit ha,
      blankPlus_of_isHexDigit hb, unquoteBytes_escape ha hb, ih]
  | char c cs hplain ih =>
    rw [List.flatMap_cons, List.map_append, List.map_cons, quoteChar]
    split
    · -- the character is read as itself on both sides, as no escape begins with it on either
      have hleft :
          ¬(blankPlus c = '%' ∧ HexNext ((cs.flatMap (quoteChar safe)).map blankPlus)) := fun h =>
        hplain ⟨eq_percent_of_blankPlus h.1, hexNext_of_quoted (hexNext_of_blankPlus h.2)⟩
      have hright : ¬(blankPlus c = '%' ∧ HexNext (cs.map blankPlus)) := fun h =>
        hplain ⟨eq_percent_of_blankPlus h.1, hexNext_of_blankPlus h.2⟩
      rw [List.map_singleton, List.singleton_append, unquoteBytes_cons hleft,
        unquoteBytes_cons hright, ih]
    · next hunsafe =>
      have hne : c ≠ '+' := by
        rintro rfl
        simp [hplus] at hunsafe
      have hc : c ≠ '%' := by
        rintro rfl
        simp [hpercent] at hunsafe
      rw [map_blankPlus_of_forall fun d => isMark_of_mem_percentChar, unquoteBytes_percentChar, ih,
        blankPlus_of_ne hne, unquoteBytes_cons fun h => hc h.1]

theorem formUnquote_quoted (hpercent : safe '%' = true) (hplus : safe '+' = true) (cs : List Char) :
    formUnquote (String.ofList (cs.flatMap (quoteChar safe))) = formUnquote (String.ofList cs) := by
  rw [formUnquote_eq, formUnquote_eq, unquoteBytes_quoted hpercent hplus]

theorem takeWhile_flatMap {p : Char → Bool} {f : Char → List Char}
    (hstop : ∀ c, p c = false → f c = [c]) (hgo : ∀ c, p c = true → ∀ d ∈ f c, p d = true)
    (cs : List Char) :
    (cs.flatMap f).takeWhile p = (cs.takeWhile p).flatMap f ∧
      (cs.flatMap f).dropWhile p = (cs.dropWhile p).flatMap f := by
  induction cs with
  | nil => exact ⟨rfl, rfl⟩
  | cons c cs ih =>
    rw [List.flatMap_cons]
    cases hc : p c with
    | true =>
      rw [List.takeWhile_append_of_pos (hgo c hc),
        List.dropWhile_append_of_pos (hgo c hc), ih.1, ih.2]
      simp [hc]
    | false => simp [hstop c hc, hc]

theorem eq_of_mem_quoteChar {c d : Char} (hd : isMark d = true) (h : d ∈ quoteChar safe c) :
    d = c := by
  unfold quoteChar at h
  split at h
  · exact List.mem_singleton.1 h
  · rw [isMark_of_mem_percentChar h] at hd
    cases hd

theorem pairOf_quoted (hpercent : safe '%' = true) (hmarks : ∀ d, isMark d = true → safe d = true)
    (part : List Char) : pairOf (part.flatMap (quoteChar safe)) = pairOf part := by
  have hplus : safe '+' = true := hmarks '+' (by decide)
  have hequals : quoteChar safe '=' = ['='] := by simp [quoteChar, hmarks '=' (by decide)]
  have hstop : ∀ c, (c != '=') = false → quoteChar safe c = [c] := by
    intro c hc
    obtain rfl : c = '=' := by simpa using hc
    exact hequals
  have hgo : ∀ c, (c != '=') = true → ∀ d ∈ quoteChar safe c, (d != '=') = true := by
    intro c hc d hd
    rw [bne_iff_ne] at hc ⊢
    rintro rfl
    exact hc (eq_of_mem_quoteChar (by decide) hd).symm
  obtain ⟨hname, hvalue⟩ := takeWhile_flatMap hstop hgo part
  have hdrop : ((part.dropWhile (· != '=')).flatMap (quoteChar safe)).drop 1 =
      ((part.dropWhile (· != '=')).drop 1).flatMap (quoteChar safe) := by
    cases hcs : part.dropWhile (· != '=') with
    | nil => rfl
    | cons c cs =>
      have hc : (c != '=') = false := by
        have := List.head_dropWhile_not (· != '=') (l := part) (by simp [hcs])
        simpa [hcs] using this
      rw [List.flatMap_cons, hstop c hc]
      rfl
  rw [pairOf, pairOf, hname, hvalue, hdrop, formUnquote_quoted hpercent hplus,
    formUnquote_quoted hpercent hplus]

/-- Quoting a query leaves its pairs alone, as long as its marks are safe. -/
theorem read_quote (hpercent : safe '%' = true) (hmarks : ∀ d, isMark d = true → safe d = true)
    (s : String) :
    read (quote safe s) = read s := by
  have hcut : ∀ c, (c == '&') = true → quoteChar safe c = [c] := by
    intro c hc
    obtain rfl := beq_iff_eq.1 hc
    simp [quoteChar, hmarks '&' (by decide)]
  have hplain : ∀ c, (c == '&') = false → ∀ d ∈ quoteChar safe c, (d == '&') = false := by
    intro c hc d hd
    rw [beq_eq_false_iff_ne] at hc ⊢
    rintro rfl
    exact hc (eq_of_mem_quoteChar (by decide) hd).symm
  have hkept : ((!·.isEmpty) ∘ fun part : List Char => part.flatMap (quoteChar safe)) =
      (!·.isEmpty) := by
    funext part
    cases part with
    | nil => rfl
    | cons c cs =>
      have hc : quoteChar safe c ≠ [] := by
        unfold quoteChar
        split
        · exact List.cons_ne_nil _ _
        · obtain ⟨tail, htail⟩ := exists_percentChar c
          simp [htail]
      simp [hc]
  rw [read, read, quote, String.toList_ofList, quoteChars_eq_flatMap hpercent,
    Text.splitChars_flatMap hcut hplain, List.filter_map, List.map_map, hkept]
  exact List.map_congr_left fun part _ => pairOf_quoted hpercent hmarks part

end Query

def Parts.pairs (p : Parts) : List (String × String) := (p.query.map Query.read).getD []

def Url.pairs (u : Url) : List (String × String) := (u.query.map Query.read).getD []

theorem read_quote_querySafe (s : String) : Query.read (quote querySafe s) = Query.read s := by
  refine Query.read_quote (by decide +kernel) (fun d hd => ?_) s
  simp only [isMark, Bool.or_eq_true, beq_iff_eq] at hd
  rcases hd with (rfl | rfl) | rfl <;> decide +kernel

theorem ofParts_pairs {p : Parts} {u : Url} (h : Url.ofParts p = .ok u) : u.pairs = p.pairs := by
  obtain ⟨host, -, h⟩ := Except.bind_eq_ok.1 h
  obtain ⟨port, -, h⟩ := Except.bind_eq_ok.1 h
  obtain ⟨-, -, h⟩ := Except.bind_eq_ok.1 h
  cases h
  unfold Url.pairs Parts.pairs
  cases p.query with
  | none => rfl
  | some q => exact read_quote_querySafe q

theorem parse_pairs {s : String} {u : Url} (h : Url.parse s = .ok u) :
    u.pairs = (Parts.ofText s).pairs :=
  ofParts_pairs (parse_eq_ok.1 h).2.2

theorem withQuery_pairs {u v : Url} {query : Option String} (h : u.withQuery query = .ok v) :
    v.pairs = (query.map Query.read).getD [] := by
  unfold Url.withQuery Url.rebuild at h
  obtain ⟨-, -, h⟩ := Except.bind_eq_ok.1 h
  cases query with
  | none => exact ofParts_pairs h
  | some q =>
    dsimp only at h
    obtain ⟨-, -, h⟩ := Except.bind_eq_ok.1 h
    exact ofParts_pairs h

end Web
end TestWorker
