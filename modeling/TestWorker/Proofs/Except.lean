import TestWorker.Fault

namespace TestWorker
variable {ε α β : Type}

theorem Except.bind_eq_ok {x : Except ε α} {f : α → Except ε β} {b : β} :
    (x >>= f) = .ok b ↔ ∃ a, x = .ok a ∧ f a = .ok b := by
  cases x with
  | ok a =>
    constructor
    · intro h
      exact ⟨a, rfl, h⟩
    · rintro ⟨a', h, hf⟩
      cases h
      exact hf
  | error e =>
    constructor
    · intro h
      cases h
    · rintro ⟨a, h, -⟩
      cases h

theorem Except.bind_eq_error {x : Except ε α} {f : α → Except ε β} {e : ε} :
    (x >>= f) = .error e ↔ x = .error e ∨ ∃ a, x = .ok a ∧ f a = .error e := by
  cases x with
  | ok a =>
    constructor
    · intro h
      exact .inr ⟨a, rfl, h⟩
    · rintro (h | ⟨a', h, hf⟩)
      · cases h
      · cases h
        exact hf
  | error e' =>
    constructor
    · intro h
      cases h
      exact .inl rfl
    · rintro (h | ⟨a, h, -⟩)
      · cases h
        rfl
      · cases h

theorem Except.exists_of_isOk {x : Except ε α} (h : x.isOk = true) : ∃ a, x = .ok a := by
  cases x with
  | ok a => exact ⟨a, rfl⟩
  | error e => cases h

theorem exists_error_of_kind {x : Except Fault α} {kind : String}
    (h : (match x with
      | .error f => f.kind == kind
      | .ok _ => false) = true) : ∃ f, x = .error f ∧ f.kind = kind := by
  cases x with
  | ok a => cases h
  | error f => exact ⟨f, rfl, beq_iff_eq.1 h⟩

theorem mapM_eq_map {f : α → Except ε β} {g : α → β} (h : ∀ a b, f a = .ok b → b = g a)
    {xs : List α} {ys : List β} (hxs : xs.mapM f = .ok ys) : ys = xs.map g := by
  induction xs generalizing ys with
  | nil => cases hxs; rfl
  | cons x xs ih =>
    rw [List.mapM_cons, Except.bind_eq_ok] at hxs
    obtain ⟨y, hy, hrest⟩ := hxs
    obtain ⟨zs, hzs, hys⟩ := Except.bind_eq_ok.1 hrest
    cases hys
    rw [List.map_cons, ← h x y hy, ih hzs]

end TestWorker
