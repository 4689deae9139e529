import TestWorker.Proofs.Context
import TestWorker.Proofs.Placeholder.Strict

namespace TestWorker

namespace Context

theorem get?_eq_none_iff {c : Context} {k : String} : c.get? k = none ↔ .text k ∉ c.keys := by
  unfold get? lookup keys
  rw [Option.map_eq_none_iff, List.find?_eq_none]
  constructor
  · intro h hk
    obtain ⟨e, he, hek⟩ := List.mem_map.1 hk
    exact h e he (Value.sameKey_text.2 hek)
  · intro h e he hek
    exact h (List.mem_map.2 ⟨e, he, Value.sameKey_text.1 hek⟩)

end Context

namespace Placeholder

theorem unbound_iff {c : Context} {t : Token} : unbound c t = true ↔ .text t.name ∉ c.keys := by
  rw [unbound, Option.isNone_iff_eq_none, Context.get?_eq_none_iff]

theorem tokens_ofSegments (segs : List Segment) :
    (Pieces.ofSegments segs).rest.map (·.1) = segs.filterMap Segment.token? := by
  induction segs with
  | nil => rfl
  | cons seg segs ih =>
    cases seg with
    | plain ch => exact ih
    | token t =>
      rw [filterMap_token, ← ih]
      rfl

theorem tokens_of_splits {s : String} {x : Pieces} (h : x.Splits s.toList) :
    tokens s = x.rest.map (·.1) := by
  rw [tokens_eq, h.eq_split, tokens_ofSegments]
  rfl

theorem granted_eq_ok_iff {α : Type} {m : Option Token} {a b : α} :
    granted m a = .ok b ↔ m = none ∧ a = b := by
  cases m with
  | none => simp [granted]
  | some t => simp [granted]

theorem granted_eq_error_iff {α : Type} {m : Option Token} {a : α} {f : Fault} :
    granted m a = .error f ↔ ∃ t, m = some t ∧ f = .unresolved t.name := by
  cases m with
  | none => simp [granted]
  | some t => simp [granted, eq_comm]

/-- Strict substitution ends in a fault exactly if a token of the tree has a key that is not in the
context. The fault names the first of them, in the order of the document: texts in the order of
items and entries, and the tokens of a text from left to right. Otherwise it comes to what lenient
substitution comes to. -/
theorem strict_names_first_missing (c : Context) (v : Value) :
    (∀ (s : String) (x : Pieces), x.Splits s.toList → tokens s = x.rest.map (·.1)) ∧
    ((∃ f, substituteStrict c v = .error f) ↔ ∃ t ∈ documentTokens v, .text t.name ∉ c.keys) ∧
    (∀ f, substituteStrict c v = .error f ↔ ∃ before t after, documentTokens v =
      before ++ t :: after ∧
      (∀ u ∈ before, .text u.name ∈ c.keys) ∧ .text t.name ∉ c.keys ∧ f = .unresolved t.name) ∧
    ∀ w, substituteStrict c v = .ok w ↔
      (∀ t ∈ documentTokens v, .text t.name ∈ c.keys) ∧ substitute c v = w := by
  have hfault : ∀ f, substituteStrict c v = .error f ↔ ∃ t,
      (documentTokens v).find? (unbound c) = some t ∧ f = .unresolved t.name := by
    intro f
    rw [substituteStrict_eq, granted_eq_error_iff]
  refine ⟨fun s x => tokens_of_splits, ?_, ?_, ?_⟩
  · constructor
    · rintro ⟨f, hf⟩
      obtain ⟨t, ht, -⟩ := (hfault f).1 hf
      exact ⟨t, List.mem_of_find?_eq_some ht, unbound_iff.1 (List.find?_some ht)⟩
    · rintro ⟨t, ht, hkey⟩
      have hsome : ((documentTokens v).find? (unbound c)).isSome = true :=
        List.find?_isSome.2 ⟨t, ht, unbound_iff.2 hkey⟩
      obtain ⟨u, hu⟩ := Option.isSome_iff_exists.1 hsome
      exact ⟨_, (hfault _).2 ⟨u, hu, rfl⟩⟩
  · intro f
    rw [hfault]
    constructor
    · rintro ⟨t, ht, rfl⟩
      obtain ⟨hkey, before, after, hsplit, hbefore⟩ := List.find?_eq_some_iff_append.1 ht
      refine ⟨before, t, after, hsplit, fun u hu => ?_, unbound_iff.1 hkey, rfl⟩
      apply Classical.byContradiction
      intro hmissing
      simpa [unbound_iff.2 hmissing] using hbefore u hu
    · rintro ⟨before, t, after, hsplit, hbefore, hkey, rfl⟩
      refine ⟨t, List.find?_eq_some_iff_append.2
        ⟨unbound_iff.2 hkey, before, after, hsplit, ?_⟩, rfl⟩
      intro u hu
      rw [Bool.not_eq_true', ← Bool.not_eq_true, unbound_iff]
      exact fun hmissing => hmissing (hbefore u hu)
  · intro w
    rw [substituteStrict_eq, granted_eq_ok_iff, List.find?_eq_none]
    simp only [unbound_iff, Classical.not_not]

/-- Keys are left alone, null counts as bound, and of two tokens without a variable the first is
named. -/
theorem strict_names_first_missing_nested :
    substituteStrict ⟨[(.text "a", .null)]⟩ (.object [
      (whole "k", .list [.text (whole "a"), .null]),
      ("x", .object [("y", .text "a \x7b\x7b b \x7d\x7d and \x7b\x7bc\x7d\x7d")]),
      ("z", .text (whole "c"))]) = .error (.unresolved "b") := by
  refine ((strict_names_first_missing _ _).2.2.1 _).2
    ⟨[⟨[], ['a'], []⟩], ⟨[' '], ['b'], [' ']⟩, [⟨[], ['c'], []⟩, ⟨[], ['c'], []⟩], ?_, ?_, ?_, rfl⟩
  · decide +kernel
  · simp [Token.name, Context.keys]
  · simp [Token.name, Context.keys]

end Placeholder
end TestWorker
