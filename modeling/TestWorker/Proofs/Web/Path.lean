import TestWorker.Proofs.Web.Percent
import TestWorker.Web.Url

namespace TestWorker

namespace Text
variable {cut : Char → Bool}

theorem splitChars_ne_nil (cut : Char → Bool) (cs : List Char) : splitChars cut cs ≠ [] := by
  induction cs with
  | nil => simp [splitChars]
  | cons c cs ih =>
    rw [splitChars]
    split
    · simp
    · split <;> simp

theorem splitChars_cons {c : Char} (hc : cut c = false) (cs : List Char) :
    ∃ p ps, splitChars cut cs = p :: ps ∧ splitChars cut (c :: cs) = (c :: p) :: ps := by
  rw [splitChars, hc]
  cases h : splitChars cut cs with
  | nil => exact absurd h (splitChars_ne_nil cut cs)
  | cons p ps => exact ⟨p, ps, rfl, rfl⟩

theorem splitChars_of_forall {cs : List Char} (h : ∀ c ∈ cs, cut c = false) :
    splitChars cut cs = [cs] := by
  induction cs with
  | nil => rfl
  | cons c cs ih =>
    obtain ⟨hc, hcs⟩ := List.forall_mem_cons.1 h
    obtain ⟨p, ps, hsplit, hcons⟩ := splitChars_cons hc cs
    rw [ih hcs] at hsplit
    cases hsplit
    exact hcons

theorem splitChars_append {cs : List Char} (h : ∀ c ∈ cs, cut c = false)
    {d : Char} (hd : cut d = true) (rest : List Char) :
    splitChars cut (cs ++ d :: rest) = cs :: splitChars cut rest := by
  induction cs with
  | nil => rw [List.nil_append, splitChars, if_pos hd]
  | cons c cs ih =>
    obtain ⟨hc, hcs⟩ := List.forall_mem_cons.1 h
    obtain ⟨p, ps, hsplit, hcons⟩ := splitChars_cons hc (cs ++ d :: rest)
    rw [ih hcs] at hsplit
    cases hsplit
    exact hcons

/-- A part has nothing to cut at, and is no longer than the whole; the whole is a part if there is
nothing to cut at in it. -/
theorem of_mem_splitChars {cs part : List Char} (h : part ∈ splitChars cut cs) :
    (∀ c ∈ part, cut c = false) ∧ part.length ≤ cs.length ∧
      (part.length = cs.length → part = cs) := by
  induction cs generalizing part with
  | nil =>
    obtain rfl : part = [] := List.mem_singleton.1 h
    simp
  | cons c cs ih =>
    cases hc : cut c with
    | true =>
      rw [splitChars, if_pos hc] at h
      rcases List.mem_cons.1 h with rfl | h
      · simp
      · obtain ⟨hpart, hlen, -⟩ := ih h
        exact ⟨hpart, Nat.le_succ_of_le hlen, fun heq => absurd heq (by simp; omega)⟩
    | false =>
      obtain ⟨p, ps, hsplit, hcons⟩ := splitChars_cons hc cs
      rw [hcons] at h
      rcases List.mem_cons.1 h with rfl | h
      · have hp : p ∈ splitChars cut cs := by simp [hsplit]
        obtain ⟨hpart, hlen, heq⟩ := ih hp
        refine ⟨List.forall_mem_cons.2 ⟨hc, hpart⟩, Nat.succ_le_succ hlen, fun hsame => ?_⟩
        rw [heq (Nat.succ.inj hsame)]
      · have hp : part ∈ splitChars cut cs := by simp [hsplit, h]
        obtain ⟨hpart, hlen, -⟩ := ih hp
        exact ⟨hpart, Nat.le_succ_of_le hlen, fun heq => absurd heq (by simp; omega)⟩

end Text

namespace Web
open Text (splitChars)

theorem joinSegments_cons (seg : List Char) {segs : List (List Char)} (h : segs ≠ []) :
    joinSegments (seg :: segs) = seg ++ '/' :: joinSegments segs := by
  cases segs with
  | nil => exact absurd rfl h
  | cons next segs => simp [joinSegments, List.intercalate]

def Slashless (seg : List Char) : Prop := ∀ c ∈ seg, (c == '/') = false

instance (seg : List Char) : Decidable (Slashless seg) := List.decidableBAll _ _

theorem splitChars_joinSegments {segs : List (List Char)} (hne : segs ≠ [])
    (h : ∀ seg ∈ segs, Slashless seg) : splitChars (· == '/') (joinSegments segs) = segs := by
  induction segs with
  | nil => exact absurd rfl hne
  | cons seg segs ih =>
    obtain ⟨hseg, hsegs⟩ := List.forall_mem_cons.1 h
    by_cases hnil : segs = []
    · subst hnil
      simpa [joinSegments, List.intercalate] using Text.splitChars_of_forall hseg
    · rw [joinSegments_cons seg hnil, Text.splitChars_append hseg rfl, ih hnil hsegs]

theorem splitChars_flatMap {segs : List (List Char)} (h : ∀ seg ∈ segs, Slashless seg)
    (rest : List Char) :
    splitChars (· == '/') (segs.flatMap (· ++ ['/']) ++ rest) =
      segs ++ splitChars (· == '/') rest := by
  induction segs with
  | nil => rfl
  | cons seg segs ih =>
    obtain ⟨hseg, hsegs⟩ := List.forall_mem_cons.1 h
    rw [List.flatMap_cons, List.append_assoc, List.append_assoc, List.singleton_append,
      Text.splitChars_append hseg rfl, ih hsegs, List.cons_append]

theorem flatMap_joinSegments {f : Char → List Char} (hf : f '/' = ['/']) (segs : List (List Char)) :
    (joinSegments segs).flatMap f = joinSegments (segs.map (·.flatMap f)) := by
  induction segs with
  | nil => rfl
  | cons seg segs ih =>
    by_cases hnil : segs = []
    · subst hnil
      simp [joinSegments, List.intercalate]
    · rw [joinSegments_cons seg hnil, List.flatMap_append, List.flatMap_cons, hf, ih, List.map_cons,
        joinSegments_cons _ (by simpa using hnil)]
      rfl

theorem slashless_percentChar (c : Char) : Slashless (percentChar c) := by
  have hbyte : ∀ n < 256, Slashless (percentByte (UInt8.ofNat n)) := by decide +kernel
  intro d hd
  obtain ⟨b, -, hb⟩ := List.mem_flatMap.1 hd
  refine hbyte b.toNat b.toNat_lt d ?_
  rwa [UInt8.ofNat_toNat]

theorem slashless_quoted {safe : Char → Bool} {seg : List Char} (h : Slashless seg) :
    Slashless (seg.flatMap (quoteChar safe)) := by
  intro d hd
  obtain ⟨c, hc, hd⟩ := List.mem_flatMap.1 hd
  unfold quoteChar at hd
  split at hd
  · obtain rfl : d = c := List.mem_singleton.1 hd
    exact h d hc
  · exact slashless_percentChar c d hd

theorem splitChars_quote {segs : List (List Char)} (hne : segs ≠ [])
    (h : ∀ seg ∈ segs, Slashless seg) :
    splitChars (· == '/') (quote pathSafe (str (joinSegments segs))).toList =
      segs.map fun seg => seg.flatMap (quoteChar pathSafe) := by
  have hslash : quoteChar pathSafe '/' = ['/'] := by decide +kernel
  rw [quote, str, String.toList_ofList, String.toList_ofList,
    quoteChars_eq_flatMap (by decide +kernel), flatMap_joinSegments hslash]
  apply splitChars_joinSegments (by simpa using hne)
  intro seg hseg
  obtain ⟨seg', hseg', rfl⟩ := List.mem_map.1 hseg
  exact slashless_quoted (h seg' hseg')

theorem unquote_quote {safe : Char → Bool} (h : safe '%' = true) (cs : List Char) :
    unquote (str (cs.flatMap (quoteChar safe))) = unquote (str cs) := by
  rw [unquote, unquote, str, str, String.toList_ofList, String.toList_ofList,
    ← quoteChars_eq_flatMap h, unquoteBytes_quoteChars h]

/-- What a segment does to those before it. -/
def dropDot (out : List (List Char)) (seg : List Char) : List (List Char) :=
  if seg == ['.'] then out
  else if seg == ['.', '.'] then (if out.isEmpty || out == [[]] then out else out.dropLast)
  else out ++ [seg]

def IsDots (seg : List Char) : Prop := seg = ['.'] ∨ seg = ['.', '.']

theorem dropDot_of_not_dots {seg : List Char} (h : ¬IsDots seg) (out : List (List Char)) :
    dropDot out seg = out ++ [seg] := by
  obtain ⟨h₁, h₂⟩ := not_or.1 h
  simp [dropDot, h₁, h₂]

theorem dropDots_append (before after : List (List Char)) :
    dropDots (before ++ after) = after.foldl dropDot (dropDots before) :=
  List.foldl_append

theorem mem_drop_dropDot {out : List (List Char)} {next seg : List Char} {n : Nat}
    (h : seg ∈ (dropDot out next).drop n) : seg ∈ out.drop n ∨ seg = next ∧ ¬IsDots next := by
  by_cases hdots : IsDots next
  · have hsub : (dropDot out next).Sublist out := by
      rcases hdots with rfl | rfl
      · exact List.Sublist.refl out
      · have hup : dropDot out ['.', '.'] = if out.isEmpty || out == [[]] then out
          else out.dropLast := rfl
        rw [hup]
        split
        · exact List.Sublist.refl out
        · exact List.dropLast_sublist out
    exact .inl ((hsub.drop n).mem h)
  · rw [dropDot_of_not_dots hdots, List.drop_append] at h
    rcases List.mem_append.1 h with h | h
    · exact .inl h
    · exact .inr ⟨List.mem_singleton.1 (List.mem_of_mem_drop h), hdots⟩

theorem forall_drop_foldl_dropDot {S : List Char → Prop} {n : Nat}
    {after : List (List Char)} (hafter : ∀ seg ∈ after, ¬IsDots seg → S seg)
    {out : List (List Char)} (hout : ∀ seg ∈ out.drop n, S seg) :
    ∀ seg ∈ (after.foldl dropDot out).drop n, S seg := by
  induction after generalizing out with
  | nil => exact hout
  | cons next after ih =>
    obtain ⟨hnext, hafter⟩ := List.forall_mem_cons.1 hafter
    refine ih hafter fun seg hseg => ?_
    rcases mem_drop_dropDot hseg with hseg | ⟨rfl, hdots⟩
    · exact hout seg hseg
    · exact hnext hdots

/-- The root stays. -/
theorem exists_foldl_dropDot (after out : List (List Char)) :
    ∃ rest, after.foldl dropDot ([] :: out) = [] :: rest := by
  induction after generalizing out with
  | nil => exact ⟨out, rfl⟩
  | cons next after ih =>
    have hnext : ∃ rest, dropDot ([] :: out) next = [] :: rest := by
      unfold dropDot
      split
      · exact ⟨out, rfl⟩
      split
      · cases out with
        | nil => exact ⟨[], rfl⟩
        | cons seg out => exact ⟨(seg :: out).dropLast, rfl⟩
      · exact ⟨out ++ [next], rfl⟩
    obtain ⟨rest, hrest⟩ := hnext
    rw [List.foldl_cons, hrest]
    exact ih rest

end Web
end TestWorker
