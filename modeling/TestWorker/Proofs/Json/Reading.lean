import TestWorker.Json.Reader
import TestWorker.Proofs.Entries
import TestWorker.Proofs.Except

namespace TestWorker

namespace Json

/-- A value of a kind that JSON has. -/
def isNative : Value → Bool
  | .bytes _ | .decimal _ | .date _ | .tuple _ => false
  | _ => true

def Native (v : Value) : Prop :=
  isNative v = true ∧ ∀ es, v = .object es → ∀ e ∈ es, isNative e.2 = true

theorem number_of_numeral {cs rest : List Char} {v : Value} (h : numeral cs = .ok (v, rest)) :
    (∃ n, v = .int n) ∨ ∃ x, v = .float x := by
  unfold numeral at h
  split at h
  extract_lets whole left at h
  split at h
  · cases h
  · split at h
    split at h
    · split at h
      · cases h
      · cases h
        exact .inl ⟨_, rfl⟩
    · cases h
      exact .inr ⟨_, rfl⟩

theorem native_of_simple {cs rest : List Char} {v : Value} (h : simple cs = .ok (v, rest)) :
    Native v := by
  suffices hv : isNative v = true ∧ ∀ es, v ≠ .object es from
    ⟨hv.1, fun es he => absurd he (hv.2 es)⟩
  unfold simple at h
  split at h
  · next w v' hfind =>
    cases h
    have hmem := List.mem_of_find?_eq_some hfind
    simp only [literals, List.mem_cons, List.not_mem_nil, or_false, Prod.mk.injEq] at hmem
    rcases hmem with h | h | h | h | h | h <;> rw [h.2] <;> exact ⟨rfl, nofun⟩
  · rcases number_of_numeral h with ⟨n, rfl⟩ | ⟨x, rfl⟩ <;> exact ⟨rfl, nofun⟩

theorem native_ofList {es : Entries} (h : ∀ e ∈ es, isNative e.2 = true) :
    Native (.object (Entries.ofList es)) := by
  refine ⟨rfl, fun fs hfs e he => ?_⟩
  cases hfs
  rcases Entries.exists_mem_of_mem_merge he with he | ⟨f, hf, hv⟩
  · cases he
  · exact hv ▸ h f hf

/-- By the depth that is left: a value needs its entries, and these need their values, one step
down. -/
theorem native_of_depth (fuel : Nat) :
    (∀ cs v rest, value fuel cs = .ok (v, rest) → Native v) ∧
      ∀ cs es rest, entries fuel cs = .ok (es, rest) → ∀ e ∈ es, isNative e.2 = true := by
  induction fuel with
  | zero =>
    refine ⟨fun cs v rest h => ?_, fun cs es rest h => ?_⟩
    · unfold value at h
      exact native_of_simple h
    · unfold entries at h
      cases h
  | succ fuel ih =>
    obtain ⟨ihvalue, ihentries⟩ := ih
    refine ⟨fun cs v rest h => ?_, fun cs es rest h => ?_⟩
    · unfold value at h
      split at h
      · obtain ⟨⟨s, r⟩, -, hv⟩ := Except.bind_eq_ok.1 h
        cases hv
        exact ⟨rfl, nofun⟩
      · split at h
        · cases h
          exact ⟨rfl, nofun⟩
        · obtain ⟨⟨vs, r⟩, -, hv⟩ := Except.bind_eq_ok.1 h
          cases hv
          exact ⟨rfl, nofun⟩
      · obtain rfl := Nat.succ.inj ‹fuel + 1 = Nat.succ _›
        split at h
        · cases h
          exact native_ofList fun e he => absurd he List.not_mem_nil
        · obtain ⟨⟨es, r⟩, hes, hv⟩ := Except.bind_eq_ok.1 h
          cases hv
          exact native_ofList (ihentries _ _ _ hes)
      · exact native_of_simple h
    · unfold entries at h
      split at h
      · obtain rfl := Nat.succ.inj ‹fuel + 1 = Nat.succ _›
        obtain ⟨⟨k, r⟩, -, h⟩ := Except.bind_eq_ok.1 h
        dsimp only at h
        split at h
        · obtain ⟨⟨v, r'⟩, hv, h⟩ := Except.bind_eq_ok.1 h
          have hnative := (ihvalue _ _ _ hv).1
          dsimp only at h
          split at h
          · cases h
            simpa using hnative
          · obtain ⟨⟨es', r''⟩, hes, h⟩ := Except.bind_eq_ok.1 h
            cases h
            exact List.forall_mem_cons.2 ⟨hnative, ihentries _ _ _ hes⟩
          · cases h
        · cases h
      · cases h

theorem native_of_document {cs : List Char} {v : Value} (h : document cs = .ok v) : Native v := by
  obtain ⟨⟨w, rest⟩, hw, h⟩ := Except.bind_eq_ok.1 h
  dsimp only at h
  split at h
  · cases h
    exact (native_of_depth _).1 _ _ _ hw
  · cases h

theorem native_of_readBytes {bytes : Text.Bytes} {v : Value} (h : readBytes bytes = .ok v) :
    Native v := by
  unfold readBytes at h
  dsimp only at h
  split at h
  · cases h
  · next s _ =>
    cases hdoc : document s.toList with
    | error e => rw [read, hdoc] at h; cases h
    | ok w =>
      rw [read, hdoc] at h
      cases h
      exact native_of_document hdoc

end Json
end TestWorker
