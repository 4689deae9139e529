import TestWorker.Json.Writer

namespace TestWorker.Json

theorem refusals?_eq_none {vs : List Value} :
    refusals? vs = none ↔ ∀ v ∈ vs, refusal? v = none := by
  induction vs with
  | nil => simp [refusals?]
  | cons v vs ih =>
    rw [refusals?, List.forall_mem_cons, ← ih]
    cases refusal? v <;> simp

theorem entryRefusals?_eq_none {es : Entries} :
    entryRefusals? es = none ↔ ∀ e ∈ es, refusal? e.2 = none := by
  induction es with
  | nil => simp [entryRefusals?]
  | cons e es ih =>
    rw [entryRefusals?, List.forall_mem_cons, ← ih]
    cases refusal? e.2 <;> simp

theorem refusal?_list {vs : List Value} :
    refusal? (.list vs) = none ↔ ∀ v ∈ vs, refusal? v = none := by
  rw [refusal?, refusals?_eq_none]

theorem refusal?_object {es : Entries} :
    refusal? (.object es) = none ↔ ∀ e ∈ es, refusal? e.2 = none := by
  rw [refusal?, entryRefusals?_eq_none]

theorem refusal?_float {x : Double} : refusal? (.float x) = none ↔ x.isFinite = true := by
  cases h : x.isFinite <;> simp [refusal?, h]

end TestWorker.Json
