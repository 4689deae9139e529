import TestWorker.Database.Statement
import TestWorker.Proofs.Entries
import TestWorker.Proofs.Json.Strict
import TestWorker.Proofs.Placeholder.Pieces

namespace TestWorker

namespace Json

/-- Values that strict JSON has a form for, at every depth. A tuple is said as a list is. -/
inductive Sayable : Value → Prop
  | null : Sayable .null
  | bool (b : Bool) : Sayable (.bool b)
  | int (n : Int) : Sayable (.int n)
  | float {x : Double} (h : x.isFinite = true) : Sayable (.float x)
  | text (s : String) : Sayable (.text s)
  | tuple {vs : List Value} (h : ∀ v ∈ vs, Sayable v) : Sayable (.tuple vs)
  | list {vs : List Value} (h : ∀ v ∈ vs, Sayable v) : Sayable (.list vs)
  | object {es : Entries} (h : ∀ e ∈ es, Sayable e.2) : Sayable (.object es)

theorem refusal?_tuple {vs : List Value} :
    refusal? (.tuple vs) = none ↔ ∀ v ∈ vs, refusal? v = none := by
  rw [refusal?, refusals?_eq_none]

theorem Sayable.refusal? {v : Value} (h : Sayable v) : Json.refusal? v = none := by
  induction h with
  | float h => exact refusal?_float.2 h
  | tuple _ ih => exact refusal?_tuple.2 ih
  | list _ ih => exact refusal?_list.2 ih
  | object _ ih => exact refusal?_object.2 ih
  | _ => rfl

mutual

theorem sayable_of_refusal? : ∀ {v : Value}, refusal? v = none → Sayable v
  | .null, _ => .null
  | .bool b, _ => .bool b
  | .int n, _ => .int n
  | .text s, _ => .text s
  | .float _, h => .float (refusal?_float.1 h)
  | .tuple vs, h => .tuple (sayable_items vs (refusal?_tuple.1 h))
  | .list vs, h => .list (sayable_items vs (refusal?_list.1 h))
  | .object es, h => .object (sayable_entries es (refusal?_object.1 h))
  | .bytes _, h | .decimal _, h | .date _, h => by cases h

theorem sayable_items : ∀ vs : List Value, (∀ v ∈ vs, refusal? v = none) → ∀ v ∈ vs, Sayable v
  | [], _ => by simp
  | v :: vs, h => List.forall_mem_cons.2
      ⟨sayable_of_refusal? (h v (by simp)), sayable_items vs fun u hu => h u (by simp [hu])⟩

theorem sayable_entries : ∀ es : Entries, (∀ e ∈ es, refusal? e.2 = none) → ∀ e ∈ es, Sayable e.2
  | [], _ => by simp
  | (k, v) :: es, h => List.forall_mem_cons.2
      ⟨sayable_of_refusal? (h (k, v) (by simp)), sayable_entries es fun u hu => h u (by simp [hu])⟩

end

theorem sayable_iff {v : Value} : Sayable v ↔ refusal? v = none :=
  ⟨Sayable.refusal?, sayable_of_refusal?⟩

theorem sayable_list {vs : List Value} : Sayable (.list vs) ↔ ∀ v ∈ vs, Sayable v := by
  simp only [sayable_iff, refusal?_list]

theorem sayable_object {es : Entries} : Sayable (.object es) ↔ ∀ e ∈ es, Sayable e.2 := by
  simp only [sayable_iff, refusal?_object]

theorem sayable_float {x : Double} : Sayable (.float x) ↔ x.isFinite = true := by
  rw [sayable_iff, refusal?_float]

theorem strict_of_sayable {v : Value} (h : Sayable v) : strict v = .ok (text compact v) := by
  rw [strict, h.refusal?]

theorem strict_of_not_sayable {v : Value} (h : ¬Sayable v) : ∃ r, strict v = .error r := by
  rw [sayable_iff] at h
  obtain ⟨r, hr⟩ := Option.ne_none_iff_exists'.1 h
  exact ⟨r, by rw [strict, hr]⟩

end Json

namespace Placeholder
open Json (Sayable)

/-- A longer text stays a text; a text that is one token makes place for the value. -/
theorem sayable_fill {c : Context} {s : String} :
    Sayable (fill c s) ↔ ∀ t w, segments s = [.token t] → c.get? t.name = some w → Sayable w := by
  unfold fill
  split
  · next t ht =>
    rw [ht]
    cases hv : c.get? t.name with
    | none =>
      constructor
      · rintro - u w hu hw
        cases hu
        rw [hv] at hw
        cases hw
      · intro _
        exact .text s
    | some v =>
      constructor
      · rintro h u w hu hw
        cases hu
        rw [hv] at hw
        cases hw
        exact h
      · intro h
        exact h t v rfl hv
  · next hsegs =>
    constructor
    · intro _ t w ht
      exact absurd ht (hsegs t)
    · intro _
      exact .text _

mutual

theorem sayable_substitute (c : Context) : ∀ v : Value, Sayable (substitute c v) ↔
    Sayable v ∧ ∀ s ∈ leafTexts v, ∀ t w, segments s = [.token t] →
      c.get? t.name = some w → Sayable w
  | .text s => by
    rw [substitute_text, sayable_fill]
    simp [leafTexts, Sayable.text]
  | .list vs => by
    rw [substitute_list, Json.sayable_list, Json.sayable_list, leafTexts, List.forall_mem_map]
    exact sayable_substitute_items c vs
  | .object es => by
    rw [substitute_object, Json.sayable_object, Json.sayable_object, leafTexts, List.forall_mem_map]
    exact sayable_substitute_entries c es
  | .null | .bool _ | .int _ | .float _ | .bytes _ | .decimal _ | .date _ | .tuple _ => by
    simp [leafTexts, substitute, mapTexts]

theorem sayable_substitute_items (c : Context) :
    ∀ vs : List Value, (∀ v ∈ vs, Sayable (substitute c v)) ↔
    (∀ v ∈ vs, Sayable v) ∧
      ∀ s ∈ itemTexts vs, ∀ t w, segments s = [.token t] → c.get? t.name = some w → Sayable w
  | [] => by simp [itemTexts]
  | v :: vs => by
    rw [List.forall_mem_cons, List.forall_mem_cons, itemTexts, List.forall_mem_append,
      sayable_substitute c v, sayable_substitute_items c vs]
    exact and_and_and_comm

theorem sayable_substitute_entries (c : Context) : ∀ es : Entries,
    (∀ e ∈ es, Sayable (substitute c e.2)) ↔
    (∀ e ∈ es, Sayable e.2) ∧
      ∀ s ∈ entryTexts es, ∀ t w, segments s = [.token t] → c.get? t.name = some w → Sayable w
  | [] => by simp [entryTexts]
  | (k, v) :: es => by
    rw [List.forall_mem_cons, List.forall_mem_cons, entryTexts, List.forall_mem_append,
      sayable_substitute c v, sayable_substitute_entries c es]
    exact and_and_and_comm

end

end Placeholder

namespace Database
open Json (Sayable)

theorem sayable_cell {v : Value} :
    Sayable (cell v) ↔ ∀ x, cell v = .float x → x.isFinite = true := by
  cases v with
  | float x => simp [cell, Json.sayable_float]
  | null => simp [cell, Sayable.null]
  | bool b => simp [cell, Sayable.bool]
  | int n => simp [cell, Sayable.int]
  | text s => simp [cell, Sayable.text]
  | _ => simp [cell, Sayable.text]

theorem exists_cell_of_mem {r : ResultSet} {es : Entries} {e : String × Value}
    (hes : .object es ∈ r.objects) (he : e ∈ es) : ∃ v, e.2 = cell v := by
  unfold ResultSet.objects at hes
  split at hes
  · cases hes
  · next columns hcolumns =>
    obtain ⟨row, -, hrow⟩ := List.mem_map.1 hes
    obtain rfl := Value.object.inj hrow
    obtain ⟨f, hf, hfe⟩ := Entries.mem_ofList he
    have hcell := (List.of_mem_zip (a := f.1) (b := f.2) hf).2
    obtain ⟨v, -, hv⟩ := List.mem_map.1 hcell
    exact ⟨v, hfe.symm.trans hv.symm⟩

theorem exists_object_of_mem {r : ResultSet} {v : Value} (hv : v ∈ r.objects) :
    ∃ es, v = .object es := by
  unfold ResultSet.objects at hv
  split at hv
  · cases hv
  · obtain ⟨row, -, hrow⟩ := List.mem_map.1 hv
    exact ⟨_, hrow.symm⟩

/-- Rows can be said unless a number in them is not finite. -/
theorem sayable_objects {r : ResultSet} : Sayable (.list r.objects) ↔
    ∀ es, .object es ∈ r.objects → ∀ k x, (k, .float x) ∈ es → x.isFinite = true := by
  rw [Json.sayable_list]
  constructor
  · intro h es hes k x hx
    exact Json.sayable_float.1 (Json.sayable_object.1 (h _ hes) _ hx)
  · intro h v hv
    obtain ⟨es, rfl⟩ := exists_object_of_mem hv
    rw [Json.sayable_object]
    intro e he
    -- whatever a column holds, its cell is a scalar, and only a number may be none that JSON has
    obtain ⟨u, hu⟩ := exists_cell_of_mem hv he
    rw [hu, sayable_cell]
    intro x hx
    exact h es hv e.1 x (by rw [← hx, ← hu]; exact he)

end Database
end TestWorker
