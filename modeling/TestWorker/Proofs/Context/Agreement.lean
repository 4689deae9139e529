import TestWorker.Proofs.Context

namespace TestWorker

namespace Value

theorem sameKey_of_number {v u : Value} {p : Rat} (h : v.number? = some p) :
    v.sameKey u = (u.number? == some p) := by
  unfold sameKey
  split
  case h_7 =>
    rw [h]
    cases u.number? with
    | none => rfl
    | some q => exact BEq.comm
  all_goals simp [number?, Double.toRat?] at h

theorem sameKey_cases {v w : Value} (h : v.sameKey w = true) :
    v = w ∨ (∃ p, v.number? = some p ∧ w.number? = some p) ∨
      ∃ vs ws, v = .tuple vs ∧ w = .tuple ws ∧ sameKeys vs ws = true := by
  unfold sameKey at h
  split at h
  case h_1 => exact .inl rfl
  case h_5 vs ws => exact .inr (.inr ⟨vs, ws, rfl, rfl, h⟩)
  case h_7 =>
    split at h
    · next p q hv hw => exact .inr (.inl ⟨p, hv, (beq_iff_eq.1 h) ▸ hw⟩)
    · cases h
  all_goals
    rw [beq_iff_eq.1 h]
    exact .inl rfl

/-- A key that is the same as another is the same as that one's, and the other way round. -/
def Interchangeable (v w : Value) : Prop := w.sameKey v = true ∧ ∀ u, v.sameKey u = w.sameKey u

theorem interchangeable_of_tuples {v w : Value} (h : v.sameKey w = true)
    (htuples : ∀ vs ws, v = .tuple vs → w = .tuple ws → sameKeys vs ws = true →
      sameKeys ws vs = true ∧ ∀ us, sameKeys vs us = sameKeys ws us) : Interchangeable v w := by
  rcases sameKey_cases h with rfl | ⟨p, hv, hw⟩ | ⟨vs, ws, rfl, rfl, hs⟩
  · exact ⟨h, fun _ => rfl⟩
  · refine ⟨?_, fun u => ?_⟩
    · rw [sameKey_of_number hw, hv, beq_self_eq_true]
    · rw [sameKey_of_number hv, sameKey_of_number hw]
  · obtain ⟨hsymm, hcongr⟩ := htuples vs ws rfl rfl hs
    refine ⟨hsymm, fun u => ?_⟩
    cases u with
    | tuple us => exact hcongr us
    | float x => cases x <;> rfl
    | _ => rfl

mutual

theorem interchangeable_of_sameKey : ∀ {v w : Value}, v.sameKey w = true → Interchangeable v w
  | .tuple vs, w, h => interchangeable_of_tuples h fun vs' ws hv _ hs => by
    cases hv
    exact interchangeable_of_sameKeys hs
  | .null, w, h | .bool _, w, h | .int _, w, h | .float _, w, h | .text _, w, h | .bytes _, w, h
  | .decimal _, w, h | .date _, w, h | .list _, w, h | .object _, w, h =>
    interchangeable_of_tuples h nofun

theorem interchangeable_of_sameKeys : ∀ {vs ws : List Value}, sameKeys vs ws = true →
    sameKeys ws vs = true ∧ ∀ us, sameKeys vs us = sameKeys ws us
  | [], [], _ => ⟨rfl, fun _ => rfl⟩
  | v :: vs, w :: ws, h => by
    obtain ⟨hv, hvs⟩ := Bool.and_eq_true_iff.1 h
    obtain ⟨hsymm, hcongr⟩ := interchangeable_of_sameKey hv
    obtain ⟨hsymms, hcongrs⟩ := interchangeable_of_sameKeys hvs
    refine ⟨Bool.and_eq_true_iff.2 ⟨hsymm, hsymms⟩, fun us => ?_⟩
    cases us with
    | nil => rfl
    | cons u us => rw [sameKeys, sameKeys, hcongr, hcongrs]

end

theorem sameKey_symm {v w : Value} (h : v.sameKey w = true) : w.sameKey v = true :=
  (interchangeable_of_sameKey h).1

theorem sameKey_congr {v w : Value} (h : v.sameKey w = true) (u : Value) :
    v.sameKey u = w.sameKey u :=
  (interchangeable_of_sameKey h).2 u

end Value

namespace Context

theorem lookup_put (c : Context) (key v key' : Value) :
    (c.put key v).lookup key' = if key.sameKey key' then some v else c.lookup key' := by
  obtain ⟨es⟩ := c
  simp only [put, lookup]
  induction es with
  | nil => cases h : key.sameKey key' <;> simp [putEntry, h]
  | cons e es ih =>
    obtain ⟨k, w⟩ := e
    rw [putEntry]
    split
    · next hk =>
      rw [List.find?_cons, List.find?_cons, Value.sameKey_congr hk key']
      cases key.sameKey key' <;> rfl
    · next hk =>
      rw [List.find?_cons, List.find?_cons]
      cases hk' : k.sameKey key' with
      | false => exact ih
      | true =>
        -- were it the key that is put too, the entry would be the one that is overwritten
        have hkey : key.sameKey key' = false := by
          rw [← Bool.not_eq_true]
          intro h
          exact hk ((Value.sameKey_congr hk' key).trans (Value.sameKey_symm h))
        simp [hkey]

/-- The same under every key but one. -/
def AgreeExcept (b : String) (c c' : Context) : Prop :=
  ∀ key, key ≠ .text b → c.lookup key = c'.lookup key

theorem AgreeExcept.get? {b : String} {c c' : Context} (h : AgreeExcept b c c')
    {s : String} (hs : s ≠ b) :
    c.get? s = c'.get? s :=
  h _ fun ht => hs (Value.text.inj ht)

theorem AgreeExcept.put {b : String} {c c' : Context} (h : AgreeExcept b c c') (key v : Value) :
    AgreeExcept b (c.put key v) (c'.put key v) := by
  intro key' hkey'
  rw [lookup_put, lookup_put, h key' hkey']

theorem AgreeExcept.store {b : String} {c c' : Context} (h : AgreeExcept b c c') (name v : Value) :
    (∃ f, Action.store c name v = .error f ∧ Action.store c' name v = .error f) ∨
    ∃ d d', Action.store c name v = .ok d ∧ Action.store c' name v = .ok d' ∧
      AgreeExcept b d d' := by
  unfold Action.store
  split
  · unfold Context.set
    split
    · exact .inl ⟨_, rfl, rfl⟩
    · exact .inr ⟨_, _, rfl, rfl, h.put name v⟩
  · exact .inr ⟨c, c', rfl, rfl, h⟩

end Context
end TestWorker
