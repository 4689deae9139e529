import TestWorker.Placeholder.Token

namespace TestWorker

namespace Text

theorem mem_takeWhile {p : Char → Bool} {cs : List Char} {c : Char} (h : c ∈ cs.takeWhile p) :
    p c = true :=
  List.all_eq_true.1 List.all_takeWhile c h

theorem within_disjoint {rs ts : List (Nat × Nat)}
    (h : (rs.all fun r => ts.all fun t => r.2 < t.1 || t.2 < r.1) = true) {c : Char}
    (hr : within rs c = true) : within ts c = false := by
  simp only [within, List.any_eq_true, Bool.and_eq_true, decide_eq_true_eq] at hr
  obtain ⟨r, hrm, hr⟩ := hr
  simp only [within, List.any_eq_false, Bool.and_eq_true, decide_eq_true_eq]
  intro t ht
  have hd := List.all_eq_true.1 (List.all_eq_true.1 h r hrm) t ht
  simp only [Bool.or_eq_true, decide_eq_true_eq] at hd
  omega

theorem tables_disjoint :
    (Table.blank.all fun r => Table.alphanumeric.all fun t => r.2 < t.1 || t.2 < r.1) = true := by
  decide +kernel

theorem forall_ascii {P : Char → Prop} (h : ∀ n < 128, P (Char.ofNat n)) {c : Char}
    (hc : isAscii c = true) : P c := by
  have hn := h c.toNat (by simpa [isAscii] using hc)
  rwa [Char.ofNat_toNat] at hn

theorem isWord_eq_false_of_isBlank {c : Char} (h : isBlank c = true) : isWord c = false := by
  cases ha : isAscii c with
  | true =>
    exact forall_ascii (P := fun c => isBlank c = true → isWord c = false) (by decide) ha h
  | false =>
    simp only [isBlank, ha] at h
    simpa [isWord, ha] using within_disjoint tables_disjoint h

end Text

namespace Placeholder

theorem isKeyChar_eq_false_of_isBlank {c : Char} (h : Text.isBlank c = true) :
    isKeyChar c = false := by
  have hw := Text.isWord_eq_false_of_isBlank h
  have hd : c ≠ '.' := by rintro rfl; simp [Text.isBlank, Text.isAscii, Text.isAsciiBlank] at h
  have hh : c ≠ '-' := by rintro rfl; simp [Text.isBlank, Text.isAscii, Text.isAsciiBlank] at h
  simp [isKeyChar, hw, hd, hh]

namespace Token

/-- Blanks around a key that is not empty. -/
structure Formed (t : Token) : Prop where
  before : ∀ c ∈ t.before, Text.isBlank c = true
  key : ∀ c ∈ t.key, isKeyChar c = true
  after : ∀ c ∈ t.after, Text.isBlank c = true
  named : t.key ≠ []

theorem formed_of_read? {cs rest : List Char} {t : Token} (h : read? cs = some (t, rest)) :
    t.Formed ∧ cs = t.written ++ rest := by
  unfold read? at h
  split at h
  · rename_i body
    dsimp only at h
    split at h
    · rename_i rest' heq
      split at h
      · simp at h
      · rename_i hkey
        simp only [Option.some.injEq, Prod.mk.injEq] at h
        obtain ⟨rfl, rfl⟩ := h
        refine ⟨⟨fun _ => Text.mem_takeWhile, fun _ => Text.mem_takeWhile,
          fun _ => Text.mem_takeWhile, by simpa using hkey⟩, ?_⟩
        have h1 := List.takeWhile_append_dropWhile (p := Text.isBlank) (l := body)
        have h2 := List.takeWhile_append_dropWhile (p := isKeyChar)
          (l := body.dropWhile Text.isBlank)
        have h3 := List.takeWhile_append_dropWhile (p := Text.isBlank)
          (l := (body.dropWhile Text.isBlank).dropWhile isKeyChar)
        rw [heq] at h3
        simp [written, h1, h2, h3]
    · simp at h
  · simp at h

theorem read?_written {t : Token} (h : t.Formed) (rest : List Char) :
    read? (t.written ++ rest) = some (t, rest) := by
  obtain ⟨before, key, after⟩ := t
  obtain ⟨hb, hk, ha, hn⟩ := h
  obtain ⟨k, ks, rfl⟩ := List.exists_cons_of_ne_nil hn
  dsimp only at hb hk ha
  have hk0 : ¬Text.isBlank k = true := by
    intro hkb
    simpa [isKeyChar_eq_false_of_isBlank hkb] using hk k (by simp)
  have hclose : ¬Text.isBlank '}' = true ∧ ¬isKeyChar '}' = true := by decide
  -- what follows the key starts with a blank or with a brace
  have hstop : (after ++ '}' :: '}' :: rest).takeWhile isKeyChar = [] ∧
      (after ++ '}' :: '}' :: rest).dropWhile isKeyChar = after ++ '}' :: '}' :: rest := by
    cases after with
    | nil => simp [hclose.2]
    | cons a as => simp [isKeyChar_eq_false_of_isBlank (ha a (by simp))]
  have h1 : (before ++ (k :: ks ++ (after ++ '}' :: '}' :: rest))).dropWhile Text.isBlank =
      k :: ks ++ (after ++ '}' :: '}' :: rest) := by
    rw [List.dropWhile_append_of_pos hb, List.cons_append, List.dropWhile_cons_of_neg hk0]
  have h2 : (before ++ (k :: ks ++ (after ++ '}' :: '}' :: rest))).takeWhile Text.isBlank =
      before := by
    rw [List.takeWhile_append_of_pos hb, List.cons_append, List.takeWhile_cons_of_neg hk0,
      List.append_nil]
  have h3 : (k :: ks ++ (after ++ '}' :: '}' :: rest)).dropWhile isKeyChar =
      after ++ '}' :: '}' :: rest := by
    rw [List.dropWhile_append_of_pos hk, hstop.2]
  have h4 : (k :: ks ++ (after ++ '}' :: '}' :: rest)).takeWhile isKeyChar = k :: ks := by
    rw [List.takeWhile_append_of_pos hk, hstop.1, List.append_nil]
  have h5 : (after ++ '}' :: '}' :: rest).dropWhile Text.isBlank = '}' :: '}' :: rest := by
    rw [List.dropWhile_append_of_pos ha, List.dropWhile_cons_of_neg hclose.1]
  have h6 : (after ++ '}' :: '}' :: rest).takeWhile Text.isBlank = after := by
    rw [List.takeWhile_append_of_pos ha, List.takeWhile_cons_of_neg hclose.1, List.append_nil]
  have hw : written ⟨before, k :: ks, after⟩ ++ rest =
      '{' :: '{' :: (before ++ (k :: ks ++ (after ++ '}' :: '}' :: rest))) := by simp [written]
  rw [hw, read?]
  simp only [h1, h2, h3, h4, h5, h6]
  rfl

end Token

theorem flatMap_written_split (cs : List Char) : (split cs).flatMap Segment.written = cs := by
  fun_induction split cs with
  | case1 => rfl
  | case2 c cs t rest found ih =>
    rw [List.flatMap_cons, ih, (Token.formed_of_read? found).2]
    rfl
  | case3 c cs found ih =>
    rw [List.flatMap_cons, ih]
    rfl

theorem formed_of_mem_split {cs : List Char} {t : Token} (h : Segment.token t ∈ split cs) :
    t.Formed := by
  fun_induction split cs with
  | case1 => simp at h
  | case2 c cs t' rest found ih =>
    rcases List.mem_cons.1 h with h | h
    · cases h
      exact (Token.formed_of_read? found).1
    · exact ih h
  | case3 c cs found ih => exact ih (by simpa using h)

theorem mem_tokens {s : String} {t : Token} : t ∈ tokens s ↔ Segment.token t ∈ segments s := by
  rw [tokens, List.mem_filterMap]
  constructor
  · rintro ⟨seg, hseg, h⟩
    cases seg with
    | plain c => simp at h
    | token u => simp only [Option.some.injEq] at h; exact h ▸ hseg
  · intro h
    exact ⟨_, h, rfl⟩

theorem occursIn_iff {s : String} : occursIn s = true ↔ ∃ t, t ∈ tokens s := by
  cases h : tokens s with
  | nil => simp [occursIn, h]
  | cons t ts => simp [occursIn, h]

def whole (k : String) : String := "\x7b\x7b" ++ k ++ "\x7d\x7d"

theorem segments_whole {k : String} (hk : k ≠ "") (hkey : ∀ ch ∈ k.toList, isKeyChar ch = true) :
    segments (whole k) = [.token ⟨[], k.toList, []⟩] := by
  have hformed : Token.Formed ⟨[], k.toList, []⟩ := ⟨by simp, hkey, by simp, by simpa using hk⟩
  have hwritten : (whole k).toList = Token.written ⟨[], k.toList, []⟩ ++ [] := by
    simp [whole, Token.written]
  have hread := Token.read?_written hformed []
  rw [← hwritten] at hread
  have hcons : ∃ ch cs, (whole k).toList = ch :: cs := by
    rw [hwritten]
    exact ⟨_, _, rfl⟩
  obtain ⟨ch, cs, hcs⟩ := hcons
  rw [hcs] at hread
  unfold segments
  rw [hcs, split]
  split
  · rename_i t rest found
    rw [hread] at found
    cases found
    rw [split]
  · rename_i found
    rw [hread] at found
    cases found

end Placeholder
end TestWorker
