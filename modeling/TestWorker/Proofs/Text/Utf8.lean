import TestWorker.Text.Encoding

namespace TestWorker.Text

theorem toList_loop (bytes : ByteArray) (i : Nat) (out : Bytes) :
    ByteArray.toList.loop bytes i out = out.reverse ++ bytes.data.toList.drop i := by
  fun_induction ByteArray.toList.loop bytes i out with
  | case1 i out h ih =>
    have hi : i < bytes.data.toList.length := by simpa using h
    rw [ih, List.drop_eq_getElem_cons hi]
    simp [ByteArray.get!, h]
  | case2 i out h =>
    rw [List.drop_eq_nil_of_le (by simpa using Nat.le_of_not_lt h), List.append_nil]

theorem utf8Bytes_ofList (cs : List Char) :
    utf8Bytes (String.ofList cs) = cs.flatMap String.utf8EncodeChar := by
  unfold utf8Bytes ByteArray.toList
  rw [toList_loop, String.toUTF8_eq_toByteArray, String.toByteArray_ofList]
  exact List.toList_data_toByteArray

theorem utf8Bytes_toString (c : Char) : utf8Bytes c.toString = String.utf8EncodeChar c := by
  rw [show c.toString = String.ofList [c] from rfl, utf8Bytes_ofList]
  exact List.append_nil _

section
variable {a b c d : UInt8} {x y z w : Nat}

theorem isTail_iff {b : UInt8} : isTail b = true ↔ 128 ≤ b.toNat ∧ b.toNat ≤ 191 := by
  simp [isTail, UInt8.le_iff_toNat_le]

theorem low6_of_toNat (hb : b.toNat = 128 + y) (hy : y < 64) : low6 b = y := by
  unfold low6
  omega

theorem secondAllowed_of_isTail (hb : isTail b = true) (h₁ : a.toNat = 224 → 160 ≤ b.toNat)
    (h₂ : a.toNat = 237 → b.toNat ≤ 159) (h₃ : a.toNat = 240 → 144 ≤ b.toNat)
    (h₄ : a.toNat = 244 → b.toNat ≤ 143) : secondAllowed a b = true := by
  obtain ⟨hlow, hhigh⟩ := isTail_iff.1 hb
  simp only [secondAllowed, ← UInt8.toNat_inj, UInt8.le_iff_toNat_le, UInt8.reduceToNat]
  by_cases ha₁ : a.toNat = 224
  · simp [ha₁, h₁ ha₁, hhigh]
  by_cases ha₂ : a.toNat = 237
  · simp [ha₂, hlow, h₂ ha₂]
  by_cases ha₃ : a.toNat = 240
  · simp [ha₃, h₃ ha₃, hhigh]
  by_cases ha₄ : a.toNat = 244
  · simp [ha₄, hlow, h₄ ha₄]
  · simpa only [ha₁, ha₂, ha₃, ha₄, if_false] using hb

theorem utf8Piece_one (ha : a.toNat < 128) (rest : Bytes) :
    utf8Piece a rest = .char (Char.ofNat a.toNat) 1 := by
  have h : a < 0x80 := UInt8.lt_iff_toNat_lt.2 ha
  simp only [utf8Piece, h, if_true]

theorem lead_bounds (h : 194 ≤ a.toNat) (h' : a.toNat ≤ 244) :
    ¬a < 0x80 ∧ ¬(a < 0xC2 ∨ 0xF4 < a) := by
  simp only [UInt8.lt_iff_toNat_lt, UInt8.reduceToNat]
  omega

theorem utf8Piece_two (ha : a.toNat = 192 + x) (hb : b.toNat = 128 + y) (hx : 2 ≤ x) (hx' : x < 32)
    (hy : y < 64) (rest : Bytes) : utf8Piece a (b :: rest) = .char (Char.ofNat (x * 64 + y)) 2 := by
  have htail : isTail b = true := isTail_iff.2 (by omega)
  have hmod : a.toNat % 32 = x := by omega
  obtain ⟨h₁, h₂⟩ : ¬a < 0x80 ∧ ¬(a < 0xC2 ∨ 0xF4 < a) := lead_bounds (by omega) (by omega)
  have h₃ : a < 0xE0 := UInt8.lt_iff_toNat_lt.2 (by simp; omega)
  simp only [utf8Piece, h₁, h₂, h₃, htail, hmod, low6_of_toNat hb hy, if_true, if_false,
    Bool.or_eq_true, decide_eq_true_eq]

theorem utf8Piece_three (ha : a.toNat = 224 + x) (hb : b.toNat = 128 + y) (hc : c.toNat = 128 + z)
    (hx : x < 16) (hy : y < 64) (hz : z < 64) (hlow : 2048 ≤ x * 4096 + y * 64 + z)
    (hgap : x * 4096 + y * 64 + z < 0xD800 ∨ 0xDFFF < x * 4096 + y * 64 + z) (rest : Bytes) :
    utf8Piece a (b :: c :: rest) = .char (Char.ofNat (x * 4096 + y * 64 + z)) 3 := by
  have hsecond : secondAllowed a b = true :=
    secondAllowed_of_isTail (isTail_iff.2 (by omega)) (by omega) (by omega) (by omega) (by omega)
  have htail : isTail c = true := isTail_iff.2 (by omega)
  have hmod : a.toNat % 16 = x := by omega
  obtain ⟨h₁, h₂⟩ : ¬a < 0x80 ∧ ¬(a < 0xC2 ∨ 0xF4 < a) := lead_bounds (by omega) (by omega)
  have h₃ : ¬a < 0xE0 := fun h => by simp [UInt8.lt_iff_toNat_lt] at h; omega
  have h₄ : a < 0xF0 := UInt8.lt_iff_toNat_lt.2 (by simp; omega)
  simp only [utf8Piece, h₁, h₂, h₃, h₄, hsecond, htail, hmod, low6_of_toNat hb hy,
    low6_of_toNat hc hz, if_true, if_false, Bool.or_eq_true, decide_eq_true_eq, Bool.not_true,
    Bool.false_eq_true]

theorem utf8Piece_four (ha : a.toNat = 240 + x) (hb : b.toNat = 128 + y)
    (hc : c.toNat = 128 + z) (hd : d.toNat = 128 + w) (hy : y < 64)
    (hz : z < 64) (hw : w < 64) (hlow : 0x10000 ≤ x * 262144 + y * 4096 + z * 64 + w)
    (hhigh : x * 262144 + y * 4096 + z * 64 + w < 0x110000) (rest : Bytes) :
    utf8Piece a (b :: c :: d :: rest) =
      .char (Char.ofNat (x * 262144 + y * 4096 + z * 64 + w)) 4 := by
  have hsecond : secondAllowed a b = true :=
    secondAllowed_of_isTail (isTail_iff.2 (by omega)) (by omega) (by omega) (by omega) (by omega)
  have htail : isTail c = true := isTail_iff.2 (by omega)
  have htail' : isTail d = true := isTail_iff.2 (by omega)
  have hmod : a.toNat % 8 = x := by omega
  obtain ⟨h₁, h₂⟩ : ¬a < 0x80 ∧ ¬(a < 0xC2 ∨ 0xF4 < a) := lead_bounds (by omega) (by omega)
  have h₃ : ¬a < 0xE0 := fun h => by simp [UInt8.lt_iff_toNat_lt] at h; omega
  have h₄ : ¬a < 0xF0 := fun h => by simp [UInt8.lt_iff_toNat_lt] at h; omega
  simp only [utf8Piece, h₁, h₂, h₃, h₄, hsecond, htail, htail', hmod, low6_of_toNat hb hy,
    low6_of_toNat hc hz, low6_of_toNat hd hw, if_true, if_false, Bool.or_eq_true, decide_eq_true_eq,
    Bool.not_true, Bool.false_eq_true]

end

/-- The first byte of a character starts a piece that is the character. -/
theorem utf8Piece_encode (c : Char) (rest : Bytes) : ∃ a tail, String.utf8EncodeChar c = a :: tail ∧
    utf8Piece a (tail ++ rest) = .char c (tail.length + 1) := by
  have hvalid : c.val.toNat < 0xD800 ∨ 0xDFFF < c.val.toNat ∧ c.val.toNat < 0x110000 := c.valid
  have hchar : ∀ n, n = c.val.toNat → Char.ofNat n = c := by
    rintro n rfl
    exact Char.ofNat_toNat c
  unfold String.utf8EncodeChar
  generalize c.val.toNat = v at hvalid hchar
  dsimp only
  split
  · have hpiece := utf8Piece_one (a := UInt8.ofNat v) (by rw [UInt8.toNat_ofNat']; omega) rest
    rw [hchar _ (by rw [UInt8.toNat_ofNat']; omega)] at hpiece
    exact ⟨_, [], rfl, hpiece⟩
  split
  · have hpiece :=
      utf8Piece_two (a := UInt8.ofNat (v / 64 % 32 + 192)) (b := UInt8.ofNat (v % 64 + 128))
      (x := v / 64) (y := v % 64) (by rw [UInt8.toNat_ofNat']; omega)
      (by rw [UInt8.toNat_ofNat']; omega) (by omega) (by omega) (by omega) rest
    rw [hchar _ (by omega)] at hpiece
    exact ⟨_, [_], rfl, hpiece⟩
  split
  · have hpiece := utf8Piece_three (a := UInt8.ofNat (v / 4096 % 16 + 224))
      (b := UInt8.ofNat (v / 64 % 64 + 128)) (c := UInt8.ofNat (v % 64 + 128)) (x := v / 4096)
      (y := v / 64 % 64) (z := v % 64) (by rw [UInt8.toNat_ofNat']; omega)
      (by rw [UInt8.toNat_ofNat']; omega) (by rw [UInt8.toNat_ofNat']; omega) (by omega) (by omega)
      (by omega) (by omega) (by omega) rest
    rw [hchar _ (by omega)] at hpiece
    exact ⟨_, [_, _], rfl, hpiece⟩
  · have hpiece := utf8Piece_four (a := UInt8.ofNat (v / 262144 % 8 + 240))
      (b := UInt8.ofNat (v / 4096 % 64 + 128)) (c := UInt8.ofNat (v / 64 % 64 + 128))
      (d := UInt8.ofNat (v % 64 + 128)) (x := v / 262144) (y := v / 4096 % 64) (z := v / 64 % 64)
      (w := v % 64) (by rw [UInt8.toNat_ofNat']; omega) (by rw [UInt8.toNat_ofNat']; omega)
      (by rw [UInt8.toNat_ofNat']; omega) (by rw [UInt8.toNat_ofNat']; omega) (by omega) (by omega)
      (by omega) (by omega) (by omega) rest
    rw [hchar _ (by omega)] at hpiece
    exact ⟨_, [_, _, _], rfl, hpiece⟩

theorem utf8Pieces_encode (c : Char) (rest : Bytes) :
    ∃ n, utf8Pieces false (String.utf8EncodeChar c ++ rest) =
      .char c n :: utf8Pieces false rest := by
  obtain ⟨a, tail, htail, hpiece⟩ := utf8Piece_encode c rest
  refine ⟨tail.length + 1, ?_⟩
  rw [htail, List.cons_append, utf8Pieces]
  simp only [Bool.false_and, Bool.false_eq_true, if_false, hpiece, Piece.width, Nat.add_sub_cancel,
    List.drop_left]

theorem decodeLossy_utf8Bytes (s : String) : Encoding.utf8.decodeLossy (utf8Bytes s) = s := by
  have hpieces : ∀ cs : List Char,
      (utf8Pieces false (cs.flatMap String.utf8EncodeChar)).map Piece.replaced = cs := by
    intro cs
    induction cs with
    | nil => simp [utf8Pieces]
    | cons c cs ih =>
      obtain ⟨n, hn⟩ := utf8Pieces_encode c (cs.flatMap String.utf8EncodeChar)
      rw [List.flatMap_cons, hn, List.map_cons, ih]
      rfl
  rw [← String.ofList_toList (s := s), utf8Bytes_ofList]
  exact congrArg String.ofList (hpieces s.toList)

theorem utf8Piece_of_isSurrogate {a : UInt8} {rest : Bytes} (h : isSurrogate a rest = true) :
    utf8Piece a rest = .flaw "invalid continuation byte" 1 := by
  unfold isSurrogate at h
  split at h
  · next b c tail =>
    simp only [Bool.and_eq_true, decide_eq_true_eq] at h
    obtain ⟨⟨⟨rfl, hb⟩, -⟩, -⟩ := h
    have hsecond : secondAllowed 0xED b = false := by
      simp only [UInt8.le_iff_toNat_le, UInt8.reduceToNat] at hb
      simp [secondAllowed, UInt8.le_iff_toNat_le]
      omega
    simp [utf8Piece, hsecond]
  · cases h

theorem collect_pieces_encode (e : Encoding) (bytes : Bytes) (cs : List Char) (start : Nat) :
    collect e bytes start (utf8Pieces true (cs.flatMap String.utf8EncodeChar)) = .ok cs := by
  induction cs generalizing start with
  | nil =>
    rw [List.flatMap_nil, utf8Pieces]
    rfl
  | cons c cs ih =>
    obtain ⟨a, tail, htail, hpiece⟩ := utf8Piece_encode c (cs.flatMap String.utf8EncodeChar)
    have hwhole : isSurrogate a (tail ++ cs.flatMap String.utf8EncodeChar) = false := by
      refine Bool.eq_false_iff.2 fun h => ?_
      rw [utf8Piece_of_isSurrogate h] at hpiece
      cases hpiece
    rw [List.flatMap_cons, htail, List.cons_append, utf8Pieces]
    simp only [hwhole, Bool.and_false, Bool.false_eq_true, if_false, hpiece, Piece.width,
      Nat.add_sub_cancel, List.drop_left, collect, ih]
    rfl

theorem decodeAfter_utf8Bytes (s : String) : Encoding.utf8.decodeAfter 0 (utf8Bytes s) = .ok s := by
  rw [← String.ofList_toList (s := s), utf8Bytes_ofList]
  simp only [Encoding.decodeAfter, List.drop_zero, collect_pieces_encode]
  rfl

theorem utf8Piece_of_isTail {a : UInt8} (ha : isTail a = true) (rest : Bytes) :
    (utf8Piece a rest).width = 1 := by
  obtain ⟨hlow, hhigh⟩ := isTail_iff.1 ha
  have h₁ : ¬a < 0x80 := by simp only [UInt8.lt_iff_toNat_lt, UInt8.reduceToNat]; omega
  have h₂ : a < 0xC2 ∨ 0xF4 < a := by simp only [UInt8.lt_iff_toNat_lt, UInt8.reduceToNat]; omega
  simp only [utf8Piece, h₁, h₂, if_false, if_true, Bool.or_eq_true, decide_eq_true_eq, Piece.width]

theorem isTail_of_secondAllowed {a b : UInt8} (h : secondAllowed a b = true) : isTail b = true := by
  rw [isTail_iff]
  unfold secondAllowed at h
  iterate 4
    split at h
    · simp [UInt8.le_iff_toNat_le] at h
      omega
  exact isTail_iff.1 h

theorem isTail_of_mem_take (a : UInt8) (rest : Bytes) :
    ∀ b ∈ rest.take ((utf8Piece a rest).width - 1), isTail b = true := by
  -- one case a branch; what is taken was found to be allowed, or to be a tail, on the way to it
  fun_cases utf8Piece a rest <;> simp only [Piece.width, Nat.reduceSub, List.take] <;>
    grind [isTail_of_secondAllowed]

theorem length_utf8Pieces_drop {bytes : Bytes} {n : Nat} (h : ∀ b ∈ bytes.take n, isTail b = true) :
    (utf8Pieces false (bytes.drop n)).length ≤ (utf8Pieces false bytes).length := by
  induction n generalizing bytes with
  | zero => exact Nat.le_refl _
  | succ n ih =>
    cases bytes with
    | nil => exact Nat.le_refl _
    | cons b bytes =>
      obtain ⟨hb, hbytes⟩ := List.forall_mem_cons.1 h
      have hpiece : (utf8Pieces false (b :: bytes)).length =
          (utf8Pieces false bytes).length + 1 := by
        rw [utf8Pieces]
        simp [utf8Piece_of_isTail hb]
      rw [List.drop_succ_cons, hpiece]
      exact Nat.le_succ_of_le (ih hbytes)

theorem length_utf8Pieces_cons (b : UInt8) (bytes : Bytes) :
    (utf8Pieces false (b :: bytes)).length ≤ (utf8Pieces false bytes).length + 1 := by
  rw [utf8Pieces]
  simp only [Bool.false_and, Bool.false_eq_true, if_false, List.length_cons]
  exact Nat.succ_le_succ (length_utf8Pieces_drop (isTail_of_mem_take b bytes))

end TestWorker.Text
