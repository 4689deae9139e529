import TestWorker.Placeholder.Substitute
import TestWorker.Proofs.Except
import TestWorker.Proofs.Placeholder.Token

namespace TestWorker.Placeholder

@[simp] theorem substitute_text (c : Context) (s : String) : substitute c (.text s) = fill c s :=
  rfl

@[simp] theorem substitute_null (c : Context) : substitute c .null = .null := rfl

theorem mapItems_id (f : String → Value) (vs : List Value) :
    Id.run (mapItems (fun s => pure (f s)) vs) =
      vs.map fun v => Id.run (mapTexts (fun s => pure (f s)) v) := by
  induction vs with
  | nil => rfl
  | cons v vs ih =>
    rw [List.map_cons, ← ih]
    rfl

theorem mapEntries_id (f : String → Value) (es : Entries) :
    Id.run (mapEntries (fun s => pure (f s)) es) =
      es.map fun e => (e.1, Id.run (mapTexts (fun s => pure (f s)) e.2)) := by
  induction es with
  | nil => rfl
  | cons e es ih =>
    rw [List.map_cons, ← ih]
    rfl

theorem substitute_list (c : Context) (vs : List Value) :
    substitute c (.list vs) = .list (vs.map (substitute c)) :=
  congrArg Value.list (mapItems_id (fill c) vs)

theorem substitute_object (c : Context) (es : Entries) :
    substitute c (.object es) = .object (es.map fun e => (e.1, substitute c e.2)) :=
  congrArg Value.object (mapEntries_id (fill c) es)

theorem get?_map (f : Value → Value) (es : Entries) (k : String) :
    Entries.get? (es.map fun e => (e.1, f e.2)) k = (Entries.get? es k).map f := by
  induction es with
  | nil => rfl
  | cons e es ih =>
    obtain ⟨k', v⟩ := e
    by_cases h : k == k'
    · simp [Entries.get?, List.lookup_cons, h]
    · simpa [Entries.get?, List.lookup_cons, h] using ih

theorem fillStrict_eq_ok {c : Context} {s : String} {w : Value} (h : fillStrict c s = .ok w) :
    w = fill c s := by
  unfold fillStrict at h
  unfold fill
  split at h
  · split at h
    · rename_i v hv
      cases h
      simp [hv]
    · cases h
  · obtain ⟨parts, hparts, hw⟩ := Except.bind_eq_ok.1 h
    have hmap : parts = (segments s).map (Segment.fill c) := by
      refine mapM_eq_map (fun seg cs hseg => ?_) hparts
      cases seg with
      | plain ch => cases hseg; rfl
      | token t =>
        simp only [Segment.fillStrict] at hseg
        split at hseg
        · rename_i v hv
          cases hseg
          simp [Segment.fill, hv]
        · cases hseg
    cases hw
    rw [hmap, List.flatMap_def]

mutual

theorem mapTexts_eq_ok {f : String → Except Fault Value} {g : String → Value}
    (hf : ∀ s w, f s = .ok w → w = g s) :
    ∀ {v w : Value}, mapTexts f v = .ok w → w = Id.run (mapTexts (fun s => pure (g s)) v)
  | .text s, w, h => hf s w h
  | .list vs, w, h => by
    obtain ⟨ws, hws, hw⟩ := Except.bind_eq_ok.1 h
    cases hw
    exact congrArg Value.list (mapItems_eq_ok hf hws)
  | .object es, w, h => by
    obtain ⟨fs, hfs, hw⟩ := Except.bind_eq_ok.1 h
    cases hw
    exact congrArg Value.object (mapEntries_eq_ok hf hfs)
  | .null, w, h | .bool _, w, h | .int _, w, h | .float _, w, h | .bytes _, w, h
  | .decimal _, w, h | .date _, w, h | .tuple _, w, h => by cases h; rfl

theorem mapItems_eq_ok {f : String → Except Fault Value} {g : String → Value}
    (hf : ∀ s w, f s = .ok w → w = g s) :
    ∀ {vs ws : List Value}, mapItems f vs = .ok ws →
      ws = Id.run (mapItems (fun s => pure (g s)) vs)
  | [], ws, h => by cases h; rfl
  | v :: vs, ws, h => by
    obtain ⟨w, hw, hrest⟩ := Except.bind_eq_ok.1 h
    obtain ⟨us, hus, hws⟩ := Except.bind_eq_ok.1 hrest
    cases hws
    rw [mapTexts_eq_ok hf hw, mapItems_eq_ok hf hus]
    rfl

theorem mapEntries_eq_ok {f : String → Except Fault Value} {g : String → Value}
    (hf : ∀ s w, f s = .ok w → w = g s) :
    ∀ {es fs : Entries}, mapEntries f es = .ok fs →
      fs = Id.run (mapEntries (fun s => pure (g s)) es)
  | [], fs, h => by cases h; rfl
  | (k, v) :: es, fs, h => by
    obtain ⟨w, hw, hrest⟩ := Except.bind_eq_ok.1 h
    obtain ⟨us, hus, hfs⟩ := Except.bind_eq_ok.1 hrest
    cases hfs
    rw [mapTexts_eq_ok hf hw, mapEntries_eq_ok hf hus]
    rfl

end

theorem resolve_eq_ok {strict : Bool} {c : Context} {v w : Value}
    (h : resolve strict c v = .ok w) : w = substitute c v := by
  cases strict with
  | false => cases h; rfl
  | true => exact mapTexts_eq_ok (fun s w hs => fillStrict_eq_ok hs) h

theorem fill_congr {c c' : Context} {s : String}
    (h : ∀ t ∈ tokens s, c.get? t.name = c'.get? t.name) : fill c s = fill c' s := by
  have hfill : ∀ seg ∈ segments s, Segment.fill c seg = Segment.fill c' seg := by
    intro seg hseg
    cases seg with
    | plain ch => rfl
    | token t => simp only [Segment.fill, h t (mem_tokens.2 hseg)]
  unfold fill
  split
  · rename_i t ht
    rw [h t (mem_tokens.2 (by simp [ht]))]
  · rw [List.flatMap_def, List.flatMap_def, List.map_congr_left hfill]

theorem toList_of_fill {c : Context} {s r : String} (h : fill c s = .text r) :
    r.toList = (segments s).flatMap (Segment.fill c) := by
  unfold fill at h
  split at h
  · rename_i t ht
    cases hv : c.get? t.name with
    | none =>
      simp only [hv, Option.getD_none, Value.text.injEq] at h
      have hw := flatMap_written_split s.toList
      change (segments s).flatMap Segment.written = _ at hw
      rw [ht] at hw
      rw [ht, ← h, ← hw]
      simp [Segment.fill, hv, Segment.written]
    | some v =>
      simp only [hv, Option.getD_some] at h
      simp [ht, Segment.fill, hv, h, spliced]
  · cases h
    simp

/-- What a variable puts in for the token `t` touches a token of the filled text: the two overlap,
or nothing is put in and its place is inside. -/
def LeavesToken (c : Context) (s : String) (t : Token) : Prop :=
  ∃ v before after start u rest,
    c.get? t.name = some v ∧ segments s = before ++ .token t :: after ∧ Token.Formed u ∧
    (segments s).flatMap (Segment.fill c) = start ++ (u.written ++ rest) ∧
    start.length < (before.flatMap (Segment.fill c)).length + (spliced v).toList.length ∧
    (before.flatMap (Segment.fill c)).length < start.length + u.written.length

/-- Up to the first token, a filled text is the text. -/
theorem token_before_or_take_eq (c : Context) (segs : List Segment) (n : Nat) :
    (∃ before t after, segs = before ++ .token t :: after ∧
      (before.flatMap (Segment.fill c)).length < n) ∨
    (segs.flatMap (Segment.fill c)).take n = (segs.flatMap Segment.written).take n := by
  induction segs generalizing n with
  | nil => exact .inr rfl
  | cons seg segs ih =>
    cases n with
    | zero => exact .inr rfl
    | succ n =>
      cases seg with
      -- a token among the first `n` characters ends the induction
      | token t => exact .inl ⟨[], t, segs, rfl, Nat.succ_pos n⟩
      | plain ch =>
        rcases ih n with ⟨before, t, after, rfl, hn⟩ | htake
        · exact .inl ⟨.plain ch :: before, t, after, rfl, by simpa [Segment.fill] using hn⟩
        · exact .inr (by simpa [Segment.fill, Segment.written] using htake)

/-- A token of a filled text is not all literal: plain characters that spell one are one already. -/
theorem exists_token_touching (c : Context) {u : Token} (hu : u.Formed) {rest : List Char}
    (cs start : List Char)
    (h : (split cs).flatMap (Segment.fill c) = start ++ (u.written ++ rest)) :
    ∃ before t after, split cs = before ++ .token t :: after ∧
      start.length < (before.flatMap (Segment.fill c)).length + (Segment.fill c (.token t)).length ∧
      (before.flatMap (Segment.fill c)).length < start.length + u.written.length := by
  have hpos : 0 < u.written.length := by simp [Token.written]
  fun_induction split cs generalizing start with
  | case1 =>
    have := congrArg List.length h
    simp only [List.flatMap_nil, List.length_nil, List.length_append] at this
    omega
  | case2 ch cs t rest' found ih =>
    rw [List.flatMap_cons] at h
    by_cases hlt : start.length < (Segment.fill c (.token t)).length
    -- `u` starts inside what the first segment puts in, or it is one of the rest
    · exact ⟨[], t, _, rfl, by simpa using hlt, by simp; omega⟩
    · obtain ⟨start', rfl⟩ : ∃ start', start = Segment.fill c (.token t) ++ start' := by
        rcases List.append_eq_append_iff.1 h with ⟨m, hm, -⟩ | ⟨m, hm, -⟩
        · exact ⟨m, hm⟩
        · have hl := congrArg List.length hm
          simp only [List.length_append] at hl
          have hm0 : m = [] := List.length_eq_zero_iff.1 (by omega)
          exact ⟨[], by simpa [hm0] using hm.symm⟩
      rw [List.append_assoc] at h
      obtain ⟨before, t', after, hsplit, h1, h2⟩ := ih start' (List.append_cancel_left h)
      refine ⟨.token t :: before, t', after, by rw [hsplit]; rfl, ?_, ?_⟩
      · simp only [List.flatMap_cons, List.length_append] at h1 ⊢
        omega
      · simp only [List.flatMap_cons, List.length_append] at h2 ⊢
        omega
  | case3 ch cs found ih =>
    cases start with
    | cons d start =>
      simp only [List.flatMap_cons, Segment.fill, List.cons_append, List.nil_append,
        List.cons.injEq] at h
      obtain ⟨before, t', after, hsplit, h1, h2⟩ := ih start h.2
      refine ⟨.plain ch :: before, t', after, by rw [hsplit]; rfl, ?_, ?_⟩
      · simp only [List.flatMap_cons, List.length_append, List.length_cons] at h1 ⊢
        simp only [Segment.fill, List.length_cons, List.length_nil] at h1 ⊢
        omega
      · simp only [List.flatMap_cons, List.length_append, List.length_cons] at h2 ⊢
        simp only [Segment.fill, List.length_cons, List.length_nil] at h2 ⊢
        omega
    -- `u` starts at a plain character: were all of it literal, the text would have a token here
    | nil =>
      rcases token_before_or_take_eq c (.plain ch :: split cs) u.written.length with
        ⟨before, t', after, hsplit, hn⟩ | htake
      · refine ⟨before, t', after, hsplit, ?_, by simpa using hn⟩
        cases before with
        | nil => cases hsplit
        | cons seg before =>
          obtain ⟨rfl, -⟩ := List.cons.inj hsplit
          simp only [List.flatMap_cons, Segment.fill, List.length_append, List.length_cons]
          omega
      · rw [h, List.nil_append, List.take_left] at htake
        have hw : (Segment.plain ch :: split cs).flatMap Segment.written = ch :: cs := by
          rw [List.flatMap_cons, flatMap_written_split]
          rfl
        rw [hw] at htake
        have hread := Token.read?_written hu ((ch :: cs).drop u.written.length)
        have hcs := List.take_append_drop u.written.length (ch :: cs)
        rw [← htake] at hcs
        rw [hcs, found] at hread
        cases hread

theorem exists_unbound_or_leavesToken {c : Context} {s r : String} (h : fill c s = .text r)
    (hr : occursIn r = true) :
    ∃ t ∈ tokens s, c.get? t.name = none ∨ LeavesToken c s t := by
  obtain ⟨u, hu⟩ := occursIn_iff.1 hr
  have hmem := mem_tokens.1 hu
  obtain ⟨pre, post, hsplit⟩ := List.append_of_mem hmem
  have hwritten := flatMap_written_split r.toList
  change (segments r).flatMap Segment.written = _ at hwritten
  rw [hsplit, List.flatMap_append, List.flatMap_cons, toList_of_fill h] at hwritten
  obtain ⟨before, t, after, hs, h1, h2⟩ := exists_token_touching c (formed_of_mem_split hmem)
    s.toList _ hwritten.symm
  refine ⟨t, mem_tokens.2 ?_, ?_⟩
  · change _ ∈ split s.toList
    simp [hs]
  cases hv : c.get? t.name with
  | none => exact .inl rfl
  | some v =>
    refine .inr ⟨v, before, after, _, u, _, hv, hs, formed_of_mem_split hmem, hwritten.symm, ?_, h2⟩
    simpa [Segment.fill, hv] using h1

end TestWorker.Placeholder
