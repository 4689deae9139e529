import TestWorker.Json.Reader
import TestWorker.Json.Writer
import TestWorker.Proofs.Entries
import TestWorker.Proofs.Except
import TestWorker.Proofs.Text.Utf8

namespace TestWorker

theorem digits_eq (n : Nat) : digits n = Nat.toDigits 10 n := by
  rw [digits, Nat.toString_eq_ofList_toDigits, String.toList_ofList]

theorem isDigit_of_mem_digits {n : Nat} {c : Char} (h : c ∈ digits n) : c.isDigit = true :=
  Nat.isDigit_of_mem_toDigits (b := 10) (by decide) (by decide) (digits_eq n ▸ h)

theorem ofDigits_digits (n : Nat) : ofDigits (digits n) = n := by
  have h : ofDigits (digits n) = Nat.ofDigitChars 10 (digits n) 0 := Nat.ofDigitChars_eq_foldl.symm
  rw [h, digits_eq, Nat.ofDigitChars_ten_toDigits]

theorem digits_ne_nil (n : Nat) : digits n ≠ [] := digits_eq n ▸ Nat.toDigits_ne_nil

/-- No superfluous zero stands in front. -/
theorem digits_of_head_zero {n : Nat} {cs : List Char} (h : digits n = '0' :: cs) : cs = [] := by
  rw [digits_eq] at h
  induction n using Nat.strongRecOn generalizing cs with
  | ind n ih =>
    by_cases hn : n < 10
    · rw [Nat.toDigits_of_lt_base hn] at h
      exact (List.cons.inj h).2.symm
    · rw [Nat.toDigits_of_base_le (by decide) (by omega)] at h
      obtain ⟨d, ds, hds⟩ :=
        List.exists_cons_of_ne_nil (Nat.toDigits_ne_nil (n := n / 10) (b := 10))
      rw [hds, List.cons_append] at h
      obtain ⟨rfl, -⟩ := List.cons.inj h
      have hzero : n / 10 = 0 := by
        have hnil := ih (n / 10) (by omega) hds
        have hval := ofDigits_digits (n / 10)
        rw [digits_eq, hds, hnil] at hval
        exact hval.symm
      omega

theorem toList_toString_int (n : Int) :
    (toString n).toList = (if n < 0 then ['-'] else []) ++ digits n.natAbs := by
  cases n with
  | ofNat m => rfl
  | negSucc m => simp [digits, toString, Int.repr, Int.negSucc_lt_zero]

theorem exists_toList_toString_int (n : Int) :
    ∃ c cs, (toString n).toList = c :: cs ∧ (c = '-' ∨ c.isDigit = true) := by
  obtain ⟨d, ds, hds⟩ := List.exists_cons_of_ne_nil (digits_ne_nil n.natAbs)
  have hd : d.isDigit = true := isDigit_of_mem_digits (hds ▸ List.mem_cons_self)
  rw [toList_toString_int, hds]
  by_cases hneg : n < 0
  · exact ⟨'-', d :: ds, by simp [hneg], .inl rfl⟩
  · exact ⟨d, ds, by simp [hneg], .inr hd⟩

namespace Json

theorem hex4?_hexDigit :
    ∀ n < 32, hex4? (Text.hexDigit (n / 16 / 16 / 16)) (Text.hexDigit (n / 16 / 16))
    (Text.hexDigit (n / 16)) (Text.hexDigit n) = some n := by
  decide

/-- What is put for a character is read as its code, whatever follows up to the closing quote. -/
theorem units_escape (opened : Nat) (c : Char) {cs : List Char} (hcs : cs ≠ []) :
    units opened (escape c ++ cs) = (units opened cs).map fun x => (c.toNat :: x.1, x.2) := by
  have hmap : ∀ n, (units opened cs >>= fun x => pure (n :: x.1, x.2)) =
      (units opened cs).map fun x => (n :: x.1, x.2) := by
    intro n
    cases units opened cs <;> rfl
  have hback : ∀ n, c.toNat = n → c = Char.ofNat n := by
    rintro n rfl
    exact (Char.ofNat_toNat c).symm
  unfold escape
  split
  · rename_i h
    rcases (by simpa using h : c = '"' ∨ c = '\\') with rfl | rfl <;> exact hmap _
  split
  · rename_i h
    obtain rfl : c = '\n' := by simpa using h
    exact hmap _
  split
  · rename_i h
    obtain rfl : c = '\r' := by simpa using h
    exact hmap _
  split
  · rename_i h
    obtain rfl : c = '\t' := by simpa using h
    exact hmap _
  split
  · rename_i h
    rw [hback _ h]
    exact hmap _
  split
  · rename_i h
    rw [hback _ h]
    exact hmap _
  split
  · rename_i h
    obtain ⟨d, ds, rfl⟩ := List.exists_cons_of_ne_nil hcs
    rw [← hmap]
    simp only [Text.hex, List.nil_append, List.cons_append]
    rw [units]
    exact hex4?_hexDigit _ h
  · rename_i hquote _ _ _ _ _ hlow
    have hplain : c ≠ '"' ∧ c ≠ '\\' := by simpa using hquote
    rw [← hmap, List.cons_append, List.nil_append, units, if_neg hlow] <;> simp [hplain]

theorem units_flatMap_escape (opened : Nat) (cs rest : List Char) :
    units opened (cs.flatMap escape ++ '"' :: rest) = .ok (cs.map Char.toNat, rest) := by
  induction cs with
  | nil => rfl
  | cons c cs ih =>
    rw [List.flatMap_cons, List.append_assoc, units_escape opened c (by simp), ih]
    rfl

theorem not_surrogate (c : Char) : Text.isHigh c.toNat = false ∧ Text.isLow c.toNat = false := by
  have hvalid : c.toNat < 0xD800 ∨ 0xDFFF < c.toNat ∧ c.toNat < 0x110000 := c.valid
  simp only [Text.isHigh, Text.isLow, Bool.and_eq_false_iff, decide_eq_false_iff_not]
  omega

theorem joinUnits_map_toNat (cs : List Char) : joinUnits (cs.map Char.toNat) = cs := by
  induction cs with
  | nil => rfl
  | cons c cs ih =>
    cases cs with
    | nil => simp [joinUnits, not_surrogate, Char.ofNat_toNat]
    | cons d cs =>
      rw [List.map_cons] at ih
      simp [joinUnits, not_surrogate, Char.ofNat_toNat, ih]

theorem stringRest_escape (s : String) (rest : List Char) :
    stringRest (s.toList.flatMap escape ++ '"' :: rest) = .ok (s, rest) := by
  rw [stringRest, units_flatMap_escape]
  simp [joinUnits_map_toNat, bind, Except.bind, pure, Except.pure]

/-- What follows a value in a longer text does not go on with a numeral. -/
def Stops (cs : List Char) : Prop :=
  ∀ c ∈ cs.head?, c.isDigit = false ∧ c ≠ '.' ∧ c ≠ 'e' ∧ c ≠ 'E'

theorem takeWhile_digits (n : Nat) {rest : List Char} (hrest : Stops rest) :
    (digits n ++ rest).takeWhile Char.isDigit = digits n := by
  rw [List.takeWhile_append_of_pos fun c => isDigit_of_mem_digits]
  cases rest with
  | nil => simp
  | cons c cs => simp [(hrest c rfl).1]

theorem fraction_of_stops {rest : List Char} (hrest : Stops rest) : fraction rest = ([], rest) := by
  unfold fraction
  split
  · exact absurd rfl (hrest '.' rfl).2.1
  · rfl

theorem power?_of_stops {rest : List Char} (hrest : Stops rest) : power? rest = none := by
  cases rest with
  | nil => rfl
  | cons c cs => simp [power?, hrest c rfl]

/-- The sign is taken off, and the digits that follow it are read. -/
theorem numeral_digits {n : Nat} (hn : (digits n).length ≤ 4300)
    {rest : List Char} (hrest : Stops rest) (neg : Bool) {cs : List Char} (hcs : (match cs with
      | '-' :: r => (true, r)
      | r => (false, r)) = (neg, digits n ++ rest)) :
    numeral cs = .ok (.int (if neg then -n else n), rest) := by
  obtain ⟨d, ds, hds⟩ := List.exists_cons_of_ne_nil (digits_ne_nil n)
  unfold numeral
  split
  next neg' body heq =>
  obtain ⟨rfl, rfl⟩ := Prod.mk.inj (heq.symm.trans hcs)
  extract_lets whole left value
  have hwhole : whole = digits n := by
    unfold whole
    split
    · next zs hzero =>
      rw [hds, List.cons_append] at hzero
      obtain ⟨rfl, -⟩ := List.cons.inj hzero
      rw [hds, digits_of_head_zero hds]
    · exact takeWhile_digits n hrest
  have hempty : (digits n).isEmpty = false := by simp [hds]
  simp only [left, value, hwhole, hempty, List.drop_left, fraction_of_stops hrest,
    power?_of_stops hrest, ofDigits_digits, Nat.not_lt.2 hn, if_false, Bool.false_eq_true]

theorem simple_toString (n : Int) (hn : (digits n.natAbs).length ≤ 4300) {rest : List Char}
    (hrest : Stops rest) : simple ((toString n).toList ++ rest) = .ok (.int n, rest) := by
  obtain ⟨d, ds, hds⟩ := List.exists_cons_of_ne_nil (digits_ne_nil n.natAbs)
  have hd : d.isDigit = true := isDigit_of_mem_digits (hds ▸ List.mem_cons_self)
  have hne : ∀ c, c.isDigit = false → c ≠ d := by
    rintro c hc rfl
    simp [hc] at hd
  have hliteral : literals.find? (fun x => x.1.isPrefixOf ((toString n).toList ++ rest)) =
      none := by
    rw [toList_toString_int, hds]
    split <;> simp [literals, hne]
  have hnumeral : numeral ((toString n).toList ++ rest) = .ok (.int n, rest) := by
    rw [toList_toString_int]
    by_cases hneg : n < 0
    · have hsign : (-n.natAbs : Int) = n := by omega
      rw [if_pos hneg, numeral_digits hn hrest true rfl, if_pos rfl, hsign]
    · have hsign : (n.natAbs : Int) = n := by omega
      rw [if_neg hneg, numeral_digits hn hrest false, if_neg (by decide), hsign]
      rw [List.nil_append, hds, List.cons_append]
      split
      · next r heq => exact absurd (List.cons.inj heq).1.symm (hne '-' (by decide))
      · rfl
  rw [simple, hliteral]
  exact hnumeral

/-- Values that come back from their texts: what JSON has but fractions, integers as far as they are
read, and objects in which no key stands twice. -/
inductive Recoverable : Value → Prop
  | null : Recoverable .null
  | bool (b : Bool) : Recoverable (.bool b)
  | int {n : Int} (h : (digits n.natAbs).length ≤ 4300) : Recoverable (.int n)
  | text (s : String) : Recoverable (.text s)
  | list {vs : List Value} (h : ∀ v ∈ vs, Recoverable v) : Recoverable (.list vs)
  | object {es : Entries} (hkeys : (es.map (·.1)).Nodup) (h : ∀ e ∈ es, Recoverable e.2) :
      Recoverable (.object es)

/-- A comma and a colon, and nothing but blanks after them. -/
structure Layout.Plain (l : Layout) : Prop where
  item : ∃ bs, l.item.toList = ',' :: bs ∧ ∀ b ∈ bs, isBlank b = true
  colon : ∃ bs, l.colon.toList = ':' :: bs ∧ ∀ b ∈ bs, isBlank b = true

theorem plain_spaced : spaced.Plain :=
  ⟨⟨[' '], rfl, by simp [isBlank]⟩, ⟨[' '], rfl, by simp [isBlank]⟩⟩

theorem plain_compact : compact.Plain := ⟨⟨[], rfl, by simp⟩, ⟨[], rfl, by simp⟩⟩

variable {l : Layout} {v : Value} {vs : List Value} {es : Entries} {rest : List Char}

theorem toList_string (s : String) :
    (string s).toList = '"' :: (s.toList.flatMap escape ++ ['"']) := by
  simp [string]

theorem toList_intercalate_cons (sep t : String) (ts : List String) :
    (sep.intercalate (t :: ts)).toList =
      t.toList ++ ts.flatMap fun u => sep.toList ++ u.toList := by
  induction ts generalizing t with
  | nil => simp
  | cons u ts ih =>
    simp only [String.intercalate_cons_cons, String.toList_append, ih, List.flatMap_cons,
      List.append_assoc]

theorem toList_text_list (l : Layout) (vs : List Value) : (text l (.list vs)).toList =
    '[' :: ((l.item.intercalate (texts l vs)).toList ++ [']']) := by
  rw [text, String.append_assoc, String.toList_append, String.toList_append]
  rfl

theorem toList_text_object (l : Layout) (es : Entries) : (text l (.object es)).toList =
    '\x7b' :: ((l.item.intercalate (entryTexts l es)).toList ++ ['\x7d']) := by
  rw [text, String.append_assoc, String.toList_append, String.toList_append]
  rfl

/-- Neither a blank nor the end of a list stands at the head of a value's text. -/
theorem exists_toList_text (h : Recoverable v) (l : Layout) :
    ∃ c cs, (text l v).toList = c :: cs ∧ isBlank c = false ∧ c ≠ ']' := by
  cases h with
  | null => exact ⟨'n', ['u', 'l', 'l'], by rw [text]; rfl, by decide⟩
  | bool b =>
    cases b
    · exact ⟨'f', ['a', 'l', 's', 'e'], by rw [text]; rfl, by decide⟩
    · exact ⟨'t', ['r', 'u', 'e'], by rw [text]; rfl, by decide⟩
  | text s => exact ⟨'"', _, toList_string s, by decide⟩
  | list h => exact ⟨'[', _, toList_text_list l _, by decide⟩
  | object hkeys h => exact ⟨'\x7b', _, toList_text_object l _, by decide⟩
  | @int n h =>
    obtain ⟨c, cs, hcs, hc⟩ := exists_toList_toString_int n
    have hplain : isBlank c = false ∧ c ≠ ']' := by
      rcases hc with rfl | hc
      · decide
      · have hne : ∀ d, d.isDigit = false → c ≠ d := by
          rintro d hd rfl
          simp [hd] at hc
        simp [isBlank, hne]
    exact ⟨c, cs, by rw [text, hcs], hplain⟩

theorem skipBlank_cons {c : Char} (hc : isBlank c = false) (cs : List Char) :
    skipBlank (c :: cs) = c :: cs :=
  List.dropWhile_cons_of_neg (by simp [hc])

theorem skipBlank_append {bs : List Char} (hbs : ∀ b ∈ bs, isBlank b = true) (cs : List Char) :
    skipBlank (bs ++ cs) = skipBlank cs :=
  List.dropWhile_append_of_pos hbs

/-- The value is read off the head of a text that starts with its own. -/
def Regained (l : Layout) (v : Value) : Prop := ∀ fuel rest, (text l v).toList.length ≤ fuel →
  Stops rest → value fuel ((text l v).toList ++ rest) = .ok (v, rest)

theorem skipBlank_texts (hv : Recoverable v) (vs : List Value) (rest : List Char) :
    skipBlank ((l.item.intercalate (texts l (v :: vs))).toList ++ rest) =
      (l.item.intercalate (texts l (v :: vs))).toList ++ rest := by
  obtain ⟨c, cs, hcs, hblank, -⟩ := exists_toList_text hv l
  rw [texts, toList_intercalate_cons, hcs, List.cons_append,
    List.cons_append, skipBlank_cons hblank]

theorem items_texts (hl : l.Plain) (hrec : ∀ w ∈ v :: vs, Recoverable w)
    (h : ∀ w ∈ v :: vs, Regained l w) (fuel : Nat)
    (hfuel : (l.item.intercalate (texts l (v :: vs))).toList.length < fuel) (rest : List Char) :
    items fuel ((l.item.intercalate (texts l (v :: vs))).toList ++ ']' :: rest) =
      .ok (v :: vs, rest) := by
  obtain ⟨bs, hitem, hbs⟩ := hl.item
  induction vs generalizing v fuel with
  | nil =>
    obtain ⟨fuel, rfl⟩ : ∃ n, fuel = n + 1 := ⟨fuel - 1, by omega⟩
    have hv := h v List.mem_cons_self
    simp only [texts, String.intercalate_singleton] at hfuel ⊢
    rw [items, hv _ _ (by omega) (by simp [Stops])]
    rfl
  | cons w ws ih =>
    obtain ⟨fuel, rfl⟩ : ∃ n, fuel = n + 1 := ⟨fuel - 1, by omega⟩
    have hv := h v List.mem_cons_self
    have hw : Recoverable w := hrec w (by simp)
    have hjoin : (l.item.intercalate (texts l (v :: w :: ws))).toList =
        (text l v).toList ++ ',' :: (bs ++ (l.item.intercalate (texts l (w :: ws))).toList) := by
      simp only [texts, toList_intercalate_cons, List.flatMap_cons, hitem, List.cons_append,
        List.append_assoc]
    have hskip : skipBlank (bs ++ (l.item.intercalate (texts l (w :: ws))).toList ++ ']' :: rest) =
        (l.item.intercalate (texts l (w :: ws))).toList ++ ']' :: rest := by
      rw [List.append_assoc, skipBlank_append hbs, skipBlank_texts hw]
    rw [hjoin] at hfuel
    simp only [List.length_append, List.length_cons] at hfuel
    have hrest := ih (fun u hu => hrec u (List.mem_cons_of_mem _ hu))
      (fun u hu => h u (List.mem_cons_of_mem _ hu)) fuel (by omega)
    rw [hjoin, List.append_assoc, items, hv _ _ (by omega) (by simp [Stops])]
    change (items fuel (skipBlank (bs ++ _ ++ ']' :: rest)) >>= fun x => pure (v :: x.1, x.2)) = _
    rw [hskip, hrest]
    rfl

theorem toList_entry (k : String) (v : Value) : (string k ++ l.colon ++ text l v).toList =
    '"' :: (k.toList.flatMap escape ++ '"' :: (l.colon.toList ++ (text l v).toList)) := by
  simp [toList_string]

/-- One entry is read, and what follows it says whether there are more. -/
theorem entries_entry (hl : l.Plain) (k : String) (hrec : Recoverable v)
    (h : Regained l v) {fuel : Nat} (hfuel : (string k ++ l.colon ++ text l v).toList.length ≤ fuel)
    (hrest : Stops rest) :
    entries (fuel + 1) ((string k ++ l.colon ++ text l v).toList ++ rest) =
      match skipBlank rest with
      | '\x7d' :: rest => .ok ([(k, v)], rest)
      | ',' :: rest => do
        let (es, rest) ← entries fuel (skipBlank rest)
        return ((k, v) :: es, rest)
      | rest => stop .expectedComma rest := by
  obtain ⟨ds, hcolon, hds⟩ := hl.colon
  have hskip : skipBlank (ds ++ ((text l v).toList ++ rest)) = (text l v).toList ++ rest := by
    simpa [texts] using (skipBlank_append hds _).trans (skipBlank_texts (l := l) hrec [] rest)
  rw [toList_entry] at hfuel ⊢
  simp only [List.length_cons, List.length_append] at hfuel
  rw [hcolon, List.cons_append, List.append_assoc, List.cons_append, List.cons_append,
    List.cons_append, List.append_assoc, entries, stringRest_escape]
  have hstands : ∀ cs, skipBlank (':' :: cs) = ':' :: cs := fun _ => rfl
  simp only [bind, Except.bind, hstands]
  rw [hskip, h _ _ (by omega) hrest]
  rfl

theorem entries_entryTexts (hl : l.Plain) {k : String} (hrec : ∀ e ∈ (k, v) :: es, Recoverable e.2)
    (h : ∀ e ∈ (k, v) :: es, Regained l e.2) (fuel : Nat)
    (hfuel : (l.item.intercalate (entryTexts l ((k, v) :: es))).toList.length < fuel)
    (rest : List Char) :
    entries fuel ((l.item.intercalate (entryTexts l ((k, v) :: es))).toList ++ '\x7d' :: rest) =
      .ok ((k, v) :: es, rest) := by
  obtain ⟨bs, hitem, hbs⟩ := hl.item
  induction es generalizing k v fuel with
  | nil =>
    obtain ⟨fuel, rfl⟩ : ∃ n, fuel = n + 1 := ⟨fuel - 1, by omega⟩
    have hrecv : Recoverable v := hrec (k, v) List.mem_cons_self
    have hv : Regained l v := h (k, v) List.mem_cons_self
    simp only [entryTexts, String.intercalate_singleton] at hfuel ⊢
    rw [entries_entry hl k hrecv hv (by omega) (by simp [Stops])]
    rfl
  | cons e es ih =>
    obtain ⟨fuel, rfl⟩ : ∃ n, fuel = n + 1 := ⟨fuel - 1, by omega⟩
    obtain ⟨k', w⟩ := e
    have hrecv : Recoverable v := hrec (k, v) List.mem_cons_self
    have hv : Regained l v := h (k, v) List.mem_cons_self
    have hjoin : (l.item.intercalate (entryTexts l ((k, v) :: (k', w) :: es))).toList =
        (string k ++ l.colon ++ text l v).toList ++
          ',' :: (bs ++ (l.item.intercalate (entryTexts l ((k', w) :: es))).toList) := by
      simp only [entryTexts, toList_intercalate_cons, List.flatMap_cons, hitem, List.cons_append,
        List.append_assoc]
    have hskip : skipBlank (bs ++ (l.item.intercalate (entryTexts l ((k', w) :: es))).toList ++
        '\x7d' :: rest) =
          (l.item.intercalate (entryTexts l ((k', w) :: es))).toList ++ '\x7d' :: rest := by
      rw [List.append_assoc, skipBlank_append hbs, entryTexts,
        toList_intercalate_cons, toList_entry]
      rfl
    rw [hjoin] at hfuel
    simp only [List.length_append, List.length_cons] at hfuel
    have hrest := ih (fun u hu => hrec u (List.mem_cons_of_mem _ hu))
      (fun u hu => h u (List.mem_cons_of_mem _ hu)) fuel (by omega)
    rw [hjoin, List.append_assoc, entries_entry hl k hrecv hv (by omega) (by simp [Stops])]
    change (do
      let (es, rest) ← entries fuel (skipBlank (bs ++ _ ++ '\x7d' :: rest))
      return ((k, v) :: es, rest)) = _
    rw [hskip, hrest]
    rfl

theorem regained_list (hl : l.Plain) (hrec : ∀ w ∈ vs, Recoverable w) (h : ∀ w ∈ vs, Regained l w) :
    Regained l (.list vs) := by
  intro fuel rest hfuel hrest
  rw [toList_text_list, List.length_cons, List.length_append, List.length_singleton] at hfuel
  obtain ⟨fuel, rfl⟩ : ∃ n, fuel = n + 1 := ⟨fuel - 1, by omega⟩
  rw [toList_text_list, List.cons_append, List.append_assoc, List.singleton_append, value]
  cases vs with
  | nil => rfl
  | cons w ws =>
    have hitems := items_texts hl hrec h fuel (by omega) rest
    rw [skipBlank_texts (hrec w List.mem_cons_self)]
    split
    · next r heq =>
      obtain ⟨c, cs, hcs, -, hclose⟩ := exists_toList_text (hrec w List.mem_cons_self) l
      rw [texts, toList_intercalate_cons, hcs] at heq
      exact absurd (List.cons.inj heq).1 hclose
    · rw [hitems]
      rfl

theorem regained_object (hl : l.Plain) (hkeys : (es.map (·.1)).Nodup)
    (hrec : ∀ e ∈ es, Recoverable e.2) (h : ∀ e ∈ es, Regained l e.2) :
    Regained l (.object es) := by
  intro fuel rest hfuel hrest
  rw [toList_text_object, List.length_cons, List.length_append, List.length_singleton] at hfuel
  obtain ⟨fuel, rfl⟩ : ∃ n, fuel = n + 1 := ⟨fuel - 1, by omega⟩
  rw [toList_text_object, List.cons_append, List.append_assoc, List.singleton_append, value]
  cases es with
  | nil => rfl
  | cons e es =>
    obtain ⟨k, w⟩ := e
    have hentries := entries_entryTexts hl hrec h fuel (by omega) rest
    have hskip : skipBlank
        ((l.item.intercalate (entryTexts l ((k, w) :: es))).toList ++ '\x7d' :: rest) =
        (l.item.intercalate (entryTexts l ((k, w) :: es))).toList ++ '\x7d' :: rest := by
      rw [entryTexts, toList_intercalate_cons, toList_entry]
      rfl
    rw [hskip]
    split
    · next r heq =>
      rw [entryTexts, toList_intercalate_cons, toList_entry] at heq
      exact absurd (List.cons.inj heq).1 (by decide)
    · rw [hentries]
      change Except.ok (Value.object (Entries.ofList ((k, w) :: es)), rest) = _
      rw [Entries.ofList_of_nodup hkeys]

theorem value_text (hl : l.Plain) (h : Recoverable v) : Regained l v := by
  induction h with
  | null =>
    intro fuel rest hfuel hrest
    rw [text]
    cases fuel <;> rfl
  | bool b =>
    intro fuel rest hfuel hrest
    cases b <;> rw [text] <;> cases fuel <;> rfl
  | text s =>
    intro fuel rest hfuel hrest
    rw [text, toList_string] at hfuel ⊢
    obtain ⟨fuel, rfl⟩ : ∃ n, fuel = n + 1 := ⟨fuel - 1, by simp at hfuel; omega⟩
    rw [List.cons_append, value, List.append_assoc, List.cons_append, stringRest_escape]
    rfl
  | @int n hn =>
    intro fuel rest hfuel hrest
    obtain ⟨c, cs, hcs, hc⟩ := exists_toList_toString_int n
    have hopen : c ≠ '"' ∧ c ≠ '[' ∧ c ≠ '\x7b' := by
      refine ⟨?_, ?_, ?_⟩ <;> rintro rfl <;> simp at hc
    have hsimple : value fuel (c :: cs ++ rest) = simple (c :: cs ++ rest) := by
      rw [List.cons_append]
      cases fuel <;> rw [value] <;> simp [hopen]
    rw [text, hcs, hsimple, ← hcs, simple_toString n hn hrest]
  | list hrec ih => exact regained_list hl hrec ih
  | object hkeys hrec ih => exact regained_object hl hkeys hrec ih

theorem read_text (hl : l.Plain) (h : Recoverable v) : read (text l v) = .ok v := by
  have hvalue := value_text hl h ((text l v).toList.length + 1) [] (Nat.le_succ _) (by simp [Stops])
  rw [List.append_nil] at hvalue
  have hskip := skipBlank_texts (l := l) h [] []
  simp only [texts, String.intercalate_singleton, List.append_nil] at hskip
  rw [read, document, hskip, hvalue]
  rfl

theorem detect_utf8Bytes {s : String} {cs : List Char} (h : s.toList = '\x7b' :: '"' :: cs) :
    detect (Text.utf8Bytes s) = (.utf8, 0) := by
  have hbytes : Text.utf8Bytes s = 0x7B :: 0x22 :: cs.flatMap String.utf8EncodeChar := by
    rw [← String.ofList_toList (s := s), h, Text.utf8Bytes_ofList]
    rfl
  rw [hbytes]
  match cs.flatMap String.utf8EncodeChar with
  | [] | [_] | _ :: _ :: _ => rfl

theorem readBytes_text (hl : l.Plain) (h : Recoverable (.object es)) (hes : es ≠ []) :
    readBytes (Text.utf8Bytes (text l (.object es))) = .ok (.object es) := by
  obtain ⟨⟨k, v⟩, es, rfl⟩ := List.exists_cons_of_ne_nil hes
  have hhead : ∃ cs, (text l (.object ((k, v) :: es))).toList = '\x7b' :: '"' :: cs := by
    rw [toList_text_object, entryTexts, toList_intercalate_cons, toList_entry]
    exact ⟨_, rfl⟩
  obtain ⟨cs, hcs⟩ := hhead
  rw [readBytes, detect_utf8Bytes hcs]
  dsimp only
  rw [Text.decodeAfter_utf8Bytes]
  dsimp only
  rw [read_text hl h]
  rfl

end Json
end TestWorker
