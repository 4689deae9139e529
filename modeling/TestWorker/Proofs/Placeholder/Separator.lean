import TestWorker.Proofs.Placeholder.Substitute

namespace TestWorker.Placeholder

/-- Neither a brace nor a blank nor part of a key. -/
def separates (d : Char) : Bool := d != '{' && d != '}' && !Text.isBlank d && !isKeyChar d

variable {d : Char}

namespace Token

theorem Formed.not_mem_of_separates {t : Token} (ht : t.Formed) (hd : separates d = true) :
    d ∉ t.written := by
  simp only [separates, Bool.and_eq_true, bne_iff_ne, Bool.not_eq_true'] at hd
  obtain ⟨⟨⟨hopen, hclose⟩, hblank⟩, hkey⟩ := hd
  have hbefore : d ∉ t.before := fun h => by simp [ht.before d h] at hblank
  have hname : d ∉ t.key := fun h => by simp [ht.key d h] at hkey
  have hafter : d ∉ t.after := fun h => by simp [ht.after d h] at hblank
  simp [written, hopen, hclose, hbefore, hname, hafter]

/-- Whether a token stands at the head of a text is settled before the separator. -/
theorem read?_append_separator (hd : separates d = true) (cs ds : List Char) :
    read? (cs ++ d :: ds) = (read? cs).map fun x => (x.1, x.2 ++ d :: ds) := by
  cases h : read? cs with
  | some x =>
    obtain ⟨t, rest⟩ := x
    obtain ⟨ht, rfl⟩ := formed_of_read? h
    rw [List.append_assoc, read?_written ht]
    rfl
  | none =>
    refine Option.eq_none_iff_forall_ne_some.2 fun x hx => ?_
    obtain ⟨t, rest⟩ := x
    obtain ⟨ht, heq⟩ := formed_of_read? hx
    rcases List.append_eq_append_iff.1 heq with ⟨m, hw, hm⟩ | ⟨m, hcs, -⟩
    · cases m with
      | nil =>
        -- the token ends at the separator, so `cs` is all of it
        have hread := read?_written ht []
        rw [hw, List.append_nil, List.append_nil, h] at hread
        cases hread
      | cons e m =>
        obtain ⟨rfl, -⟩ := List.cons.inj hm
        exact ht.not_mem_of_separates hd (by simp [hw])
    · rw [hcs, read?_written ht] at h
      cases h

end Token

theorem split_of_read? {c : Char} {cs rest : List Char} {t : Token}
    (h : Token.read? (c :: cs) = some (t, rest)) : split (c :: cs) = .token t :: split rest := by
  rw [split]
  split <;> simp_all

theorem split_of_unread {c : Char} {cs : List Char} (h : Token.read? (c :: cs) = none) :
    split (c :: cs) = .plain c :: split cs := by
  rw [split]
  split <;> simp_all

theorem split_written {t : Token} (ht : t.Formed) (rest : List Char) :
    split (t.written ++ rest) = .token t :: split rest :=
  split_of_read? (Token.read?_written ht rest)

theorem split_append_separator (hd : separates d = true) (cs ds : List Char) :
    split (cs ++ d :: ds) = split cs ++ .plain d :: split ds := by
  fun_induction split cs with
  | case1 =>
    exact split_of_unread (Token.read?_append_separator hd [] ds)
  | case2 c cs t rest found ih =>
    have hread : Token.read? (c :: (cs ++ d :: ds)) = some (t, rest ++ d :: ds) := by
      rw [← List.cons_append, Token.read?_append_separator hd, found]
      rfl
    rw [List.cons_append, split_of_read? hread, ih]
    rfl
  | case3 c cs found ih =>
    have hread : Token.read? (c :: (cs ++ d :: ds)) = none := by
      rw [← List.cons_append, Token.read?_append_separator hd, found]
      rfl
    rw [List.cons_append, split_of_unread hread, ih]
    rfl

theorem toList_spliced_fill (c : Context) (s : String) :
    (spliced (fill c s)).toList = (segments s).flatMap (Segment.fill c) := by
  unfold fill
  split
  · rename_i t ht
    cases hv : c.get? t.name with
    | some v => simp [ht, Segment.fill, hv]
    | none =>
      have hw := flatMap_written_split s.toList
      change (segments s).flatMap Segment.written = _ at hw
      rw [ht] at hw
      simpa [ht, Segment.fill, hv, spliced, Segment.written] using hw.symm
  · simp [spliced]

theorem fill_of_plain {c : Context} {s : String} {before after : List Segment} {ch : Char}
    (h : segments s = before ++ .plain ch :: after) :
    fill c s = .text (String.ofList ((segments s).flatMap (Segment.fill c))) := by
  unfold fill
  split
  · rename_i t ht
    have hmem : Segment.plain ch ∈ [Segment.token t] := by simp [← ht, h]
    simp at hmem
  · rfl

/-- Substitution on either side of a character that no token holds, whatever the sides are: nothing,
one token with or without a value, or braces that stand open. -/
theorem substitute_separated (c : Context) (s t : String) {d : Char} (hd : separates d = true) :
    substitute c (.text (s ++ String.singleton d ++ t)) =
      .text (spliced (substitute c (.text s)) ++ String.singleton d ++
        spliced (substitute c (.text t))) := by
  have hsplit : segments (s ++ String.singleton d ++ t) = segments s ++ .plain d :: segments t := by
    simpa [segments] using split_append_separator hd s.toList t.toList
  rw [substitute_text, fill_of_plain hsplit, hsplit]
  refine congrArg Value.text (String.toList_injective ?_)
  simp [toList_spliced_fill, Segment.fill]

/-- Before the slash a token alone, after it braces that stay open. -/
theorem substitute_separated_slash :
    separates '/' = true ∧
    substitute ⟨[(.text "a", .bool true)]⟩
        (.text ("\x7b\x7ba\x7d\x7d" ++ String.singleton '/' ++ "\x7b\x7bb \x7b\x7ba\x7d\x7d\x7d")) =
      .text "true/\x7b\x7bb true\x7d" := by
  refine ⟨by decide, ?_⟩
  rw [substitute_separated _ _ _ (by decide)]
  exact congrArg Value.text (by decide +kernel)

end TestWorker.Placeholder
