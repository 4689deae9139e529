import TestWorker.Proofs.Except
import TestWorker.Web.Draft

namespace TestWorker.Web

theorem unprintable?_eq_none {s : String} :
    Url.unprintable? s = none ↔
      ∀ c ∈ s.toList, Text.isAscii c = true → Text.isPrintable c = true := by
  simp only [Url.unprintable?, Option.map_eq_none_iff, List.find?_eq_none]
  constructor
  · intro h c hc hascii
    obtain ⟨i, hi⟩ := List.mem_iff_getElem?.1 hc
    have := h (c, i) (List.mem_zipIdx_iff_getElem?.2 hi)
    simpa [hascii] using this
  · rintro h ⟨c, i⟩ hci
    have hc := List.mem_of_getElem? (List.mem_zipIdx_iff_getElem?.1 hci)
    cases hascii : Text.isAscii c with
    | false => simp
    | true => simp [h c hc hascii]

theorem parse_eq_ok {s : String} {u : Url} :
    Url.parse s = .ok u ↔ s.length ≤ Url.maxLength ∧ Url.unprintable? s = none ∧
      Url.ofParts (Parts.ofText s) = .ok u := by
  unfold Url.parse
  by_cases hlen : Url.maxLength < s.length
  · have hnot : ¬s.length ≤ Url.maxLength := by omega
    simp only [hlen, if_true, hnot, false_and, iff_false]
    intro h
    cases h
  · have hle : s.length ≤ Url.maxLength := by omega
    simp only [hlen, if_false, hle, true_and]
    cases Url.unprintable? s with
    | none => simp
    | some p => simp [throw, throwThe, MonadExceptOf.throw]

theorem takeWhile_append_of_dropWhile {p : Char → Bool} {cs : List Char} (tail : List Char)
    (h : cs.dropWhile p ≠ []) : (cs ++ tail).takeWhile p = cs.takeWhile p := by
  have hlen := congrArg List.length (List.takeWhile_append_dropWhile (p := p) (l := cs))
  have hpos := List.length_pos_iff.2 h
  rw [List.length_append] at hlen
  rw [List.takeWhile_append, if_neg (by omega)]

theorem dropWhile_append_of_dropWhile {p : Char → Bool} {cs : List Char} (tail : List Char)
    (h : cs.dropWhile p ≠ []) : (cs ++ tail).dropWhile p = cs.dropWhile p ++ tail := by
  rw [List.dropWhile_append, if_neg (by simpa using h)]

theorem splitScheme_append {cs : List Char} (tail : List Char) (h : (splitScheme cs).1 ≠ []) :
    splitScheme (cs ++ tail) = ((splitScheme cs).1, (splitScheme cs).2 ++ tail) := by
  unfold splitScheme at h
  split at h
  · simp at h
  · rename_i c cs' hcolon
    split at h
    · rename_i halpha
      split at h
      · rename_i rest hrest
        have hne : (c :: cs').dropWhile isSchemeChar ≠ [] := by simp [hrest]
        have htake := takeWhile_append_of_dropWhile tail hne
        have hdrop := dropWhile_append_of_dropWhile tail hne
        rw [hrest] at hdrop
        rw [List.cons_append] at htake hdrop
        simp [splitScheme, halpha, htake, hdrop, hrest]
      · simp at h
    · simp at h
  · simp at h

theorem takeWhile_append_of_stop {p : Char → Bool} {d : Char}
    (hd : p d = false) (cs tail : List Char) :
    (cs ++ d :: tail).takeWhile p = cs.takeWhile p := by
  rw [List.takeWhile_append]
  split
  · rename_i hlen
    rw [List.takeWhile_cons_of_neg (by simp [hd]), List.append_nil]
    exact ((List.takeWhile_prefix p).eq_of_length hlen).symm
  · rfl

theorem dropWhile_append_of_stop {p : Char → Bool} {d : Char}
    (hd : p d = false) (cs tail : List Char) :
    ∃ c rest, (cs ++ d :: tail).dropWhile p = c :: rest ∧ p c = false := by
  induction cs with
  | nil => exact ⟨d, tail, List.dropWhile_cons_of_neg (by simp [hd]), hd⟩
  | cons c cs ih =>
    cases hc : p c with
    | true => simpa [List.dropWhile_cons, hc] using ih
    | false => exact ⟨c, _, List.dropWhile_cons_of_neg (by simp [hc]), hc⟩

/-- With a slash after it, an authority stays what it is, and a path starts with a slash. -/
theorem splitRest_append {cs : List Char} (tail : List Char) (h : (splitRest cs).1 ≠ []) :
    (splitRest (cs ++ '/' :: tail)).1 = (splitRest cs).1 ∧
      ((splitRest (cs ++ '/' :: tail)).2.1 = [] ∨
        (splitRest (cs ++ '/' :: tail)).2.1.head? = some '/') := by
  unfold splitRest at h
  dsimp only at h
  split at h
  · rename_i r
    simp only [splitRest, List.cons_append]
    constructor
    · exact takeWhile_append_of_stop (d := '/') (by decide) r tail
    · obtain ⟨c, rest, hrest, hc⟩ := dropWhile_append_of_stop
        (p := fun c => !(c == '/' || c == '?' || c == '#')) (d := '/') (by decide) r tail
      rw [hrest]
      simp only [Bool.not_eq_eq_eq_not, Bool.not_false, Bool.or_eq_true, beq_iff_eq] at hc
      -- what ends the authority begins the path, or leaves it empty
      rcases hc with (rfl | rfl) | rfl
      · exact .inr rfl
      · exact .inl rfl
      · exact .inl rfl
  · simp at h

theorem checkPath_eq_ok {path : List Char} (scheme authority : Bool) (hscheme : scheme = true)
    (h : path = [] ∨ path.head? = some '/') : checkPath path scheme authority = .ok () := by
  rcases h with rfl | h
  · simp [checkPath, hscheme]
  · simp [checkPath, hscheme, h]

theorem ofParts_eq_ok {p : Parts} {u : Url} (h : Url.ofParts p = .ok u) :
    ∃ port, normalHost p.host = .ok u.host ∧ normalPort p.port p.scheme = .ok port ∧
      u.scheme = Text.asciiLower p.scheme := by
  obtain ⟨host, hhost, h⟩ := Except.bind_eq_ok.1 h
  obtain ⟨port, hport, h⟩ := Except.bind_eq_ok.1 h
  obtain ⟨-, -, h⟩ := Except.bind_eq_ok.1 h
  cases h
  exact ⟨port, hhost, hport, rfl⟩

theorem ofParts_of_path {p q : Parts} {u : Url} (h : Url.ofParts p = .ok u)
    (hscheme : q.scheme = p.scheme) (hhost : q.host = p.host) (hport : q.port = p.port)
    (hne : p.scheme ≠ "") (hpath : q.path.toList = [] ∨ q.path.toList.head? = some '/') :
    ∃ v, Url.ofParts q = .ok v ∧ v.scheme = u.scheme ∧ v.host = u.host := by
  obtain ⟨port, hnormal, hnport, hlower⟩ := ofParts_eq_ok h
  have hs : (!q.scheme.isEmpty) = true := by simpa [hscheme] using hne
  have hcheck := fun authority => checkPath_eq_ok (!q.scheme.isEmpty) authority hs hpath
  refine ⟨_, Except.bind_eq_ok.2 ⟨u.host, by rw [hhost, hnormal], Except.bind_eq_ok.2
    ⟨port, by rw [hport, hscheme, hnport], Except.bind_eq_ok.2 ⟨(), hcheck _, rfl⟩⟩⟩, ?_, rfl⟩
  rw [hlower, ← hscheme]

theorem host_ne_of_ofParts {p : Parts} {u : Url} (h : Url.ofParts p = .ok u)
    (hu : u.isAbsolute = true) : p.scheme ≠ "" ∧ p.host ≠ "" := by
  obtain ⟨port, hhost, -, hscheme⟩ := ofParts_eq_ok h
  simp only [Url.isAbsolute, Bool.and_eq_true, Bool.not_eq_eq_eq_not, Bool.not_true] at hu
  constructor
  · intro hp
    rw [hscheme, hp] at hu
    exact absurd hu.1 (by decide)
  · intro hp
    rw [hp] at hhost
    rw [← Except.ok.inj (hhost : Except.ok "" = .ok u.host)] at hu
    exact absurd hu.2 (by decide)

theorem parse_append {base path : String} {u : Url} (hbase : Url.parse base = .ok u)
    (hu : u.isAbsolute = true) {cs : List Char} (hpath : path.toList = '/' :: cs)
    (hprint : ∀ c ∈ path.toList, Text.isAscii c = true → Text.isPrintable c = true)
    (hlen : (base ++ path).length ≤ Url.maxLength) :
    ∃ v, Url.parse (base ++ path) = .ok v ∧ v.isAbsolute = true := by
  obtain ⟨-, hbaseprint, hparts⟩ := parse_eq_ok.1 hbase
  obtain ⟨hscheme, hhost⟩ := host_ne_of_ofParts hparts hu
  have hs : (splitScheme base.toList).1 ≠ [] := by
    intro h
    exact hscheme (by simp [Parts.ofText, h, str])
  have ha : (splitRest (splitScheme base.toList).2).1 ≠ [] := by
    intro h
    exact hhost (by simp [Parts.ofText, h, str, splitAuthority, splitLast])
  have hsplit := splitScheme_append path.toList hs
  rw [hpath] at hsplit
  obtain ⟨hauthority, hslash⟩ := splitRest_append cs ha
  obtain ⟨v, hv, hvs, hvh⟩ := ofParts_of_path (q := Parts.ofText (base ++ path)) hparts
    (by simp [Parts.ofText, hpath, hsplit]) (by simp [Parts.ofText, hpath, hsplit, hauthority])
    (by simp [Parts.ofText, hpath, hsplit, hauthority]) hscheme
    (by simpa [Parts.ofText, hpath, hsplit, str] using hslash)
  refine ⟨v, parse_eq_ok.2 ⟨hlen, ?_, hv⟩, by rwa [Url.isAbsolute, hvs, hvh]⟩
  rw [unprintable?_eq_none] at hbaseprint ⊢
  intro c hc
  rw [String.toList_append, List.mem_append] at hc
  exact hc.elim (hbaseprint c) (hprint c)

end TestWorker.Web
