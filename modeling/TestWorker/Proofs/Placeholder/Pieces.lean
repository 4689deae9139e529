import Mathlib.Logic.ExistsUnique
import TestWorker.Proofs.Placeholder.Substitute

namespace TestWorker

namespace Placeholder

namespace Token

theorem written_ne_nil (t : Token) : t.written ≠ [] := by simp [written]

theorem Formed.notBrace {t : Token} (h : t.Formed) {c : Char}
    (hc : c ∈ t.before ++ t.key ++ t.after) : c ≠ '{' := by
  rw [List.append_assoc, List.mem_append, List.mem_append] at hc
  rintro rfl
  rcases hc with hc | hc | hc
  · exact absurd (h.before _ hc) (by decide)
  · exact absurd (h.key _ hc) (by decide)
  · exact absurd (h.after _ hc) (by decide)

/-- Past its first brace a token has no two opening braces in a row. -/
theorem Formed.no_inner_open {t : Token} (h : t.Formed) {a cs : List Char} (ha : a ≠ [])
    (hw : t.written = a ++ '{' :: '{' :: cs) : False := by
  have hbody : '{' ∉ t.before ++ t.key ++ t.after ++ ['}', '}'] := by
    intro hmem
    rcases List.mem_append.1 hmem with hmem | hmem
    · exact h.notBrace hmem rfl
    · simp at hmem
  have hopen : '{' :: '{' :: (t.before ++ t.key ++ t.after ++ ['}', '}']) =
      a ++ '{' :: '{' :: cs := by
    rw [← hw]
    simp [written]
  rcases a with _ | ⟨_, _ | ⟨_, a'⟩⟩
  · exact ha rfl
  · have htail := (List.cons.inj (List.cons.inj hopen).2).2
    exact hbody (htail ▸ List.mem_cons_self)
  · have htail := (List.cons.inj (List.cons.inj hopen).2).2
    exact hbody (htail ▸ List.mem_append_right a' List.mem_cons_self)

/-- Of two tokens in a text the one that starts later starts after the end of the other. -/
theorem Formed.apart {t u : Token} (ht : t.Formed) {r a b : List Char}
    (ha : a ≠ []) (h : t.written ++ r = a ++ (u.written ++ b)) :
    ∃ m, a = t.written ++ m ∧ r = m ++ (u.written ++ b) := by
  rcases List.append_eq_append_iff.1 h with ⟨m, hm, hr⟩ | ⟨m, hm, hu⟩
  · exact ⟨m, hm, hr⟩
  · match m, hm, hu with
    | [], hm, hu => exact ⟨[], by simpa using hm.symm, by simpa using hu.symm⟩
    | [d], hm, hu =>
      -- a token does not end in an opening brace
      have hd : d = '{' := by
        have := congrArg List.head? hu
        simpa [written] using this.symm
      have hw : t.written = '{' :: '{' :: (t.before ++ t.key ++ t.after ++ ['}']) ++ ['}'] := by
        simp [written]
      have hlast := (List.append_inj' (hw.symm.trans hm) rfl).2
      simp [hd] at hlast
    | d :: d' :: m', hm, hu =>
      have hd : d = '{' ∧ d' = '{' := by
        have := congrArg (List.take 2) hu
        simpa [written, eq_comm] using this
      rw [hd.1, hd.2] at hm
      exact (ht.no_inner_open ha hm).elim

end Token

/-- A first chunk, and tokens that each have a chunk after them. -/
@[ext]
structure Pieces where
  first : List Char
  rest : List (Token × List Char)

namespace Pieces

def written (x : Pieces) : List Char := x.first ++ x.rest.flatMap fun p => p.1.written ++ p.2

def filled (c : Context) (x : Pieces) : List Char :=
  x.first ++ x.rest.flatMap fun p => Segment.fill c (.token p.1) ++ p.2

def Holds (cs : List Char) : Prop := ∃ (a : List Char) (t : Token) (b : List Char),
  t.Formed ∧ cs = a ++ (t.written ++ b)

structure Splits (x : Pieces) (cs : List Char) : Prop where
  whole : x.written = cs
  formed : ∀ p ∈ x.rest, p.1.Formed
  first_literal : ¬Holds x.first
  literal : ∀ p ∈ x.rest, ¬Holds p.2

/-- The token is one of the pieces, after so many characters. -/
def Places (x : Pieces) (a : List Char) (t : Token) : Prop :=
  ∃ before chunk after, x.rest = before ++ (t, chunk) :: after ∧
    a = (⟨x.first, before⟩ : Pieces).written

/-- Plain characters that stand together make a chunk. -/
def ofSegments : List Segment → Pieces
  | [] => ⟨[], []⟩
  | .plain c :: segs => let x := ofSegments segs; ⟨c :: x.first, x.rest⟩
  | .token t :: segs => let x := ofSegments segs; ⟨[], (t, x.first) :: x.rest⟩

theorem filled_ofSegments (c : Context) (segs : List Segment) :
    (ofSegments segs).filled c = segs.flatMap (Segment.fill c) := by
  induction segs with
  | nil => rfl
  | cons seg segs ih =>
    rw [List.flatMap_cons, ← ih]
    cases seg with
    | plain ch => rfl
    | token t => simp [ofSegments, filled]

theorem not_holds_nil : ¬Holds [] := by
  rintro ⟨a, t, b, -, h⟩
  simp [Token.written] at h

theorem holds_cons {c : Char} {cs : List Char} (h : Holds (c :: cs)) :
    Holds cs ∨ ∃ (t : Token) (rest : List Char), t.Formed ∧ c :: cs = t.written ++ rest := by
  obtain ⟨a, t, b, ht, heq⟩ := h
  cases a with
  | nil => exact .inr ⟨t, b, ht, heq⟩
  | cons d a => exact .inl ⟨a, t, b, ht, (List.cons.inj heq).2⟩

theorem Holds.cons {c : Char} {cs : List Char} (h : Holds cs) : Holds (c :: cs) := by
  obtain ⟨a, t, b, ht, rfl⟩ := h
  exact ⟨c :: a, t, b, ht, rfl⟩

theorem Splits.token {x : Pieces} {rest : List Char} {t : Token}
    (ht : t.Formed) (h : x.Splits rest) :
    (⟨[], (t, x.first) :: x.rest⟩ : Pieces).Splits (t.written ++ rest) where
  whole := by simp [← h.whole, written]
  formed := by simpa [ht] using h.formed
  first_literal := not_holds_nil
  literal := by simpa [h.first_literal] using h.literal

theorem Splits.plain {x : Pieces} {c : Char} {cs : List Char} (hread : Token.read? (c :: cs) = none)
    (h : x.Splits cs) : (⟨c :: x.first, x.rest⟩ : Pieces).Splits (c :: cs) where
  whole := by simp [← h.whole, written]
  formed := h.formed
  first_literal := by
    intro hc
    rcases holds_cons hc with hc | ⟨t, rest, ht, heq⟩
    · exact h.first_literal hc
    -- a token that starts with the character would have been read
    · have hcs : c :: cs = t.written ++ (rest ++ x.rest.flatMap fun p => p.1.written ++ p.2) := by
        rw [← h.whole, ← List.append_assoc, ← heq]
        rfl
      rw [hcs, Token.read?_written ht] at hread
      cases hread
  literal := h.literal

theorem Splits.of_token {x : Pieces} {rest : List Char} {t : Token} (ht : t.Formed)
    (h : x.Splits (t.written ++ rest)) :
    ∃ y : Pieces, x = ⟨[], (t, y.first) :: y.rest⟩ ∧ y.Splits rest := by
  obtain ⟨first, pieces⟩ := x
  have hwhole : first ++ pieces.flatMap (fun p => p.1.written ++ p.2) = t.written ++ rest := h.whole
  cases pieces with
  | nil =>
    -- all of the text is one chunk, which then holds the token
    have hfirst : first = t.written ++ rest := by simpa using hwhole
    exact absurd ⟨[], t, rest, ht, hfirst⟩ h.first_literal
  | cons p pieces =>
    obtain ⟨u, chunk⟩ := p
    have hu : u.Formed := h.formed (u, chunk) (by simp)
    rw [List.flatMap_cons, List.append_assoc] at hwhole
    by_cases hne : first = []
    · subst hne
      have hread := congrArg Token.read? hwhole
      rw [List.nil_append, Token.read?_written hu, Token.read?_written ht] at hread
      obtain ⟨rfl, rfl⟩ : u = t ∧ chunk ++ pieces.flatMap (fun p => p.1.written ++ p.2) = rest := by
        simpa using hread
      refine ⟨⟨chunk, pieces⟩, rfl, rfl, ?_, ?_, ?_⟩
      · intro p hp
        exact h.formed p (by simp [hp])
      · exact h.literal (u, chunk) (by simp)
      · intro p hp
        exact h.literal p (by simp [hp])
    · obtain ⟨m, hm, -⟩ := ht.apart hne hwhole.symm
      exact absurd ⟨[], t, m, ht, hm⟩ h.first_literal

theorem Splits.of_plain {x : Pieces} {c : Char} {cs : List Char}
    (hread : Token.read? (c :: cs) = none) (h : x.Splits (c :: cs)) :
    ∃ y : Pieces, x = ⟨c :: y.first, y.rest⟩ ∧ y.Splits cs := by
  obtain ⟨first, pieces⟩ := x
  have hwhole : first ++ pieces.flatMap (fun p => p.1.written ++ p.2) = c :: cs := h.whole
  cases first with
  | nil =>
    cases pieces with
    | nil => simp at hwhole
    | cons p pieces =>
      have hp : p.1.Formed := h.formed p (by simp)
      rw [List.nil_append, List.flatMap_cons, List.append_assoc] at hwhole
      rw [← hwhole, Token.read?_written hp] at hread
      cases hread
  | cons d first =>
    obtain ⟨rfl, hcs⟩ := List.cons.inj hwhole
    exact ⟨⟨first, pieces⟩, rfl, hcs, h.formed, fun hf => h.first_literal hf.cons, h.literal⟩

theorem splits_split (cs : List Char) : (ofSegments (split cs)).Splits cs := by
  fun_induction split cs with
  | case1 => exact ⟨rfl, by simp [ofSegments], not_holds_nil, by simp [ofSegments]⟩
  | case2 c cs t rest found ih =>
    obtain ⟨ht, hcs⟩ := Token.formed_of_read? found
    rw [hcs]
    exact ih.token ht
  | case3 c cs found ih => exact ih.plain found

theorem Splits.eq_split {x : Pieces} {cs : List Char} (h : x.Splits cs) :
    x = ofSegments (split cs) := by
  fun_induction split cs generalizing x with
  | case1 =>
    have hnil : x.first = [] ∧ x.rest = [] := by
      have hwhole := h.whole
      simp only [written, List.append_eq_nil_iff, List.flatMap_eq_nil_iff] at hwhole
      refine ⟨hwhole.1, List.eq_nil_iff_forall_not_mem.2 fun p hp => ?_⟩
      exact p.1.written_ne_nil (hwhole.2 p hp).1
    exact Pieces.ext hnil.1 hnil.2
  | case2 c cs t rest found ih =>
    obtain ⟨ht, hcs⟩ := Token.formed_of_read? found
    rw [hcs] at h
    obtain ⟨y, rfl, hy⟩ := h.of_token ht
    rw [ih hy]
    rfl
  | case3 c cs found ih =>
    obtain ⟨y, rfl, hy⟩ := h.of_plain found
    rw [ih hy]
    rfl

theorem existsUnique_splits (cs : List Char) : ∃! x : Pieces, x.Splits cs :=
  ⟨_, splits_split cs, fun _ h => h.eq_split⟩

/-- A text leaves no choice of tokens: each one that stands in it is a piece. -/
theorem Splits.places {x : Pieces} {cs : List Char} (h : x.Splits cs) {a b : List Char} {u : Token}
    (hu : u.Formed) (hcs : cs = a ++ (u.written ++ b)) : x.Places a u := by
  rw [h.eq_split]
  clear h
  fun_induction split cs generalizing a with
  | case1 => simp [Token.written] at hcs
  | case2 c cs t rest found ih =>
    obtain ⟨ht, heq⟩ := Token.formed_of_read? found
    rw [heq] at hcs
    by_cases hne : a = []
    · subst hne
      have hread := congrArg Token.read? hcs
      rw [Token.read?_written ht, List.nil_append, Token.read?_written hu] at hread
      obtain ⟨rfl, rfl⟩ : t = u ∧ rest = b := by simpa using hread
      exact ⟨[], (ofSegments (split rest)).first, (ofSegments (split rest)).rest, rfl, rfl⟩
    · obtain ⟨m, rfl, hm⟩ := ht.apart hne hcs
      obtain ⟨before, chunk, after, hrest, rfl⟩ := ih hm
      exact ⟨(t, (ofSegments (split rest)).first) :: before, chunk, after,
        by simp [ofSegments, hrest], by simp [written, ofSegments]⟩
  | case3 c cs found ih =>
    cases a with
    | nil =>
      rw [hcs, List.nil_append, Token.read?_written hu] at found
      cases found
    | cons d a =>
      obtain ⟨rfl, htail⟩ := List.cons.inj hcs
      obtain ⟨before, chunk, after, hrest, rfl⟩ := ih htail
      exact ⟨before, chunk, after, hrest, rfl⟩

end Pieces

theorem mem_tokens_iff {s : String} {x : Pieces} (h : x.Splits s.toList) {t : Token} :
    t ∈ tokens s ↔ t ∈ x.rest.map (·.1) := by
  have hrest : ∀ segs : List Segment, Segment.token t ∈ segs ↔
      t ∈ (Pieces.ofSegments segs).rest.map (·.1) := by
    intro segs
    induction segs with
    | nil => simp [Pieces.ofSegments]
    | cons seg segs ih => cases seg <;> simp [Pieces.ofSegments, ih]
  rw [mem_tokens, hrest, h.eq_split]
  rfl

theorem ofSegments_eq_single {segs : List Segment} {t : Token} :
    Pieces.ofSegments segs = ⟨[], [(t, [])]⟩ ↔ segs = [.token t] := by
  constructor
  · intro h
    match segs, h with
    | .token u :: [], h =>
      have hu : u = t := by simpa [Pieces.ofSegments] using h
      rw [hu]
    | .token u :: .plain c :: segs, h => simp [Pieces.ofSegments] at h
    | .token u :: .token v :: segs, h => simp [Pieces.ofSegments] at h
  · rintro rfl
    rfl

theorem fill_of_single {s : String} {x : Pieces} (h : x.Splits s.toList) {c : Context} {t : Token}
    {v : Value} (hx : x = ⟨[], [(t, [])]⟩) (hv : c.get? t.name = some v) : fill c s = v := by
  rw [h.eq_split, ofSegments_eq_single] at hx
  have hs : segments s = [.token t] := hx
  simp [fill, hs, hv]

theorem fill_of_pieces {s : String} {x : Pieces} (h : x.Splits s.toList) {c : Context}
    (hx : ∀ t, x = ⟨[], [(t, [])]⟩ → c.get? t.name = none) :
    fill c s = .text (String.ofList (x.filled c)) := by
  have hfilled : x.filled c = (segments s).flatMap (Segment.fill c) := by
    rw [h.eq_split, Pieces.filled_ofSegments]
    rfl
  rw [hfilled]
  unfold fill
  split
  · rename_i t ht
    have hnone : c.get? t.name = none := hx t (by rw [h.eq_split, ofSegments_eq_single]; exact ht)
    -- the token stays, and it is the whole text
    have hs : t.written = s.toList := by
      have hw := flatMap_written_split s.toList
      change (segments s).flatMap Segment.written = _ at hw
      simpa [ht, Segment.written] using hw
    simp [ht, Segment.fill, hnone, hs]
  · rfl

mutual

/-- The texts at which a substitution looks, in the order of the document. -/
def leafTexts : Value → List String
  | .text s => [s]
  | .list vs => itemTexts vs
  | .object es => entryTexts es
  | .null | .bool _ | .int _ | .float _ | .bytes _ | .decimal _ | .date _ | .tuple _ => []

def itemTexts : List Value → List String
  | [] => []
  | v :: vs => leafTexts v ++ itemTexts vs

def entryTexts : List (String × Value) → List String
  | [] => []
  | (_, v) :: es => leafTexts v ++ entryTexts es

end

mutual

theorem mapTexts_eq_self {f : String → Value} :
    ∀ {v : Value}, (∀ s ∈ leafTexts v, f s = .text s) →
      Id.run (mapTexts (fun s => pure (f s)) v) = v
  | .text s, h => h s (by simp [leafTexts])
  | .list _, h => congrArg Value.list (mapItems_eq_self h)
  | .object _, h => congrArg Value.object (mapEntries_eq_self h)
  | .null, _ | .bool _, _ | .int _, _ | .float _, _ | .bytes _, _ | .decimal _, _ | .date _, _
  | .tuple _, _ => rfl

theorem mapItems_eq_self {f : String → Value} :
    ∀ {vs : List Value}, (∀ s ∈ itemTexts vs, f s = .text s) →
      Id.run (mapItems (fun s => pure (f s)) vs) = vs
  | [], _ => rfl
  | v :: vs, h => by
    have hv : Id.run (mapTexts (fun s => pure (f s)) v) = v :=
      mapTexts_eq_self fun s hs => h s (List.mem_append_left _ hs)
    have hvs : Id.run (mapItems (fun s => pure (f s)) vs) = vs :=
      mapItems_eq_self fun s hs => h s (List.mem_append_right _ hs)
    rw [mapItems_id, List.map_cons, hv, ← mapItems_id, hvs]

theorem mapEntries_eq_self {f : String → Value} :
    ∀ {es : Entries}, (∀ s ∈ entryTexts es, f s = .text s) →
      Id.run (mapEntries (fun s => pure (f s)) es) = es
  | [], _ => rfl
  | (k, v) :: es, h => by
    have hv : Id.run (mapTexts (fun s => pure (f s)) v) = v :=
      mapTexts_eq_self fun s hs => h s (List.mem_append_left _ hs)
    have hes : Id.run (mapEntries (fun s => pure (f s)) es) = es :=
      mapEntries_eq_self fun s hs => h s (List.mem_append_right _ hs)
    rw [mapEntries_id, List.map_cons, ← mapEntries_id, hes]
    dsimp only
    rw [hv]

end

/-- A text without a bound token is its own filling. -/
theorem fill_of_unbound {c : Context} {s : String} (h : ∀ t ∈ tokens s, c.get? t.name = none) :
    fill c s = .text s := by
  have hsame : ∀ seg ∈ segments s, Segment.fill c seg = seg.written := by
    intro seg hseg
    cases seg with
    | plain ch => rfl
    | token t => simp [Segment.fill, h t (mem_tokens.2 hseg), Segment.written]
  have hwhole : (segments s).flatMap (Segment.fill c) = s.toList := by
    rw [List.flatMap_def, List.map_congr_left hsame, ← List.flatMap_def]
    exact flatMap_written_split s.toList
  unfold fill
  split
  · rename_i t ht
    simp [h t (mem_tokens.2 (by simp [ht]))]
  · rw [hwhole, String.ofList_toList]

theorem substitute_eq_self {c : Context} {v : Value}
    (h : ∀ s ∈ leafTexts v, ∀ t ∈ tokens s, c.get? t.name = none) : substitute c v = v :=
  mapTexts_eq_self fun s hs => fill_of_unbound (h s hs)

/-- Every text has one split into chunks without tokens and tokens, which takes in every token of
the text. Substitution keeps everything of a tree but its texts; one bound token alone gives way to
its value, and in every other text the tokens that are bound give way to the texts of their values,
all at once. So a tree without bound tokens stays as it is. -/
theorem substitute_parallel :
    (∀ s : String, ∃! x : Pieces, x.Splits s.toList) ∧
    (∀ (s : String) (x : Pieces) (a b : List Char) (t : Token), x.Splits s.toList → t.Formed →
      s.toList = a ++ (t.written ++ b) → x.Places a t) ∧
    ∀ c : Context,
      (∀ es, substitute c (.object es) = .object (es.map fun e => (e.1, substitute c e.2))) ∧
      (∀ vs, substitute c (.list vs) = .list (vs.map (substitute c))) ∧
      (∀ v, (∀ s, v ≠ .text s) → (∀ vs, v ≠ .list vs) → (∀ es, v ≠ .object es) →
        substitute c v = v) ∧
      (∀ (s : String) (x : Pieces), x.Splits s.toList →
        (∀ t v, x = ⟨[], [(t, [])]⟩ → c.get? t.name = some v → substitute c (.text s) = v) ∧
        ((∀ t, x = ⟨[], [(t, [])]⟩ → c.get? t.name = none) →
          substitute c (.text s) = .text (String.ofList (x.filled c)))) ∧
      ∀ v, (∀ s ∈ leafTexts v, ∀ x : Pieces, x.Splits s.toList →
        ∀ p ∈ x.rest, c.get? p.1.name = none) → substitute c v = v := by
  refine ⟨fun s => Pieces.existsUnique_splits s.toList, fun s x a b t h ht hs => h.places ht hs, ?_⟩
  intro c
  refine ⟨substitute_object c, substitute_list c, ?_, ?_, ?_⟩
  · intro v htext hlist hobject
    cases v with
    | text s => exact absurd rfl (htext s)
    | list vs => exact absurd rfl (hlist vs)
    | object es => exact absurd rfl (hobject es)
    | _ => rfl
  · intro s x hx
    exact ⟨fun t v hone hv => fill_of_single hx hone hv, fun hnone => fill_of_pieces hx hnone⟩
  · intro v h
    refine substitute_eq_self fun s hs t ht => ?_
    have hx := Pieces.splits_split s.toList
    obtain ⟨p, hp, rfl⟩ := List.mem_map.1 ((mem_tokens_iff hx).1 ht)
    exact h s hs _ hx p hp

/-- The value of `a` looks like a token when it stands in its place, and stays. -/
theorem substitute_parallel_braces :
    ∃ x : Pieces,
      x.Splits "\x7b\x7b\x7ba\x7d\x7d\x7d \x7b\x7b b \x7d\x7d\x7b\x7b c\x7d\x7d".toList ∧
      substitute ⟨[(.text "a", .text "\x7b\x7bb\x7d\x7d"), (.text "b", .int 1)]⟩
          (.text "\x7b\x7b\x7ba\x7d\x7d\x7d \x7b\x7b b \x7d\x7d\x7b\x7b c\x7d\x7d") =
        .text "\x7b\x7b\x7bb\x7d\x7d\x7d 1\x7b\x7b c\x7d\x7d" := by
  refine ⟨_, Pieces.splits_split _, ?_⟩
  rw [((substitute_parallel.2.2 _).2.2.2.1 _ _ (Pieces.splits_split _)).2]
  · exact congrArg Value.text (by decide +kernel)
  · intro t ht
    have hrest : (Pieces.ofSegments (split
        "\x7b\x7b\x7ba\x7d\x7d\x7d \x7b\x7b b \x7d\x7d\x7b\x7b c\x7d\x7d".toList)).rest.length ≠
          1 := by
      decide +kernel
    rw [ht] at hrest
    exact absurd rfl hrest

end Placeholder
end TestWorker
