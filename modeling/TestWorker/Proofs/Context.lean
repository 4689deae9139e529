import TestWorker.Action.Database
import TestWorker.Proofs.Entries

namespace TestWorker

theorem Value.sameKey_text {v : Value} {s : String} : v.sameKey (.text s) = true ↔ v = .text s := by
  cases v with
  | float x => cases x <;> simp [sameKey, number?]
  | _ => simp [sameKey, number?]

namespace Action

def storable (name : Value) : Bool := !name.truthy || name.unhashable?.isNone

theorem store_eq_ok_iff {c c' : Context} {name v : Value} : store c name v = .ok c' ↔
    storable name = true ∧ c' = if name.truthy then c.put name v else c := by
  unfold store storable Context.set
  cases name.truthy with
  | false => simp [eq_comm]
  | true => cases name.unhashable? <;> simp [eq_comm]

theorem store_eq_error_iff {c : Context} {name v : Value} {f : Fault} : store c name v = .error f ↔
    ∃ kind, name.truthy = true ∧ name.unhashable? = some kind ∧ f = .unhashable kind := by
  unfold store Context.set
  cases name.truthy with
  | false => simp
  | true => cases name.unhashable? <;> simp [eq_comm]

end Action

namespace Context

theorem get?_ofEntries (es : Entries) (k : String) : (ofEntries es).get? k = Entries.get? es k := by
  induction es with
  | nil => rfl
  | cons e es ih =>
    obtain ⟨k', v⟩ := e
    rw [Entries.get?_cons, ← ih]
    simp only [get?, lookup, ofEntries, List.map_cons, List.find?_cons]
    split
    · next hkey =>
      have hk : k' = k := Value.text.inj (Value.sameKey_text.1 hkey)
      simp [hk]
    · next hkey =>
      have hk : k ≠ k' := by
        rintro rfl
        exact Bool.false_ne_true (hkey.symm.trans (Value.sameKey_text.2 rfl))
      simp [hk]

theorem get?_create (test environment : Entries) (k : String) :
    (create test environment).get? k = (Entries.last? environment k).or (Entries.last? test k) := by
  rw [create, get?_ofEntries, Entries.get?_merge, Entries.get?_ofList]

/-- One entry is new, or has another value; all others are the same, in the same order. -/
def ChangedAt (key : Value) (c c' : Context) : Prop :=
  (∃ v, c'.entries = c.entries ++ [(key, v)]) ∨
  ∃ before k w v after, k.sameKey key = true ∧ c.entries = before ++ (k, w) :: after ∧
    c'.entries = before ++ (k, v) :: after

theorem putEntry_changes (es : List (Value × Value)) (key v : Value) :
    ChangedAt key ⟨es⟩ ⟨putEntry es key v⟩ := by
  induction es with
  | nil => exact .inl ⟨v, rfl⟩
  | cons e es ih =>
    obtain ⟨k, w⟩ := e
    by_cases hk : k.sameKey key = true
    · exact .inr ⟨[], k, w, v, es, hk, rfl, by simp [putEntry, hk]⟩
    · have hput : putEntry ((k, w) :: es) key v = (k, w) :: putEntry es key v := by
        simp [putEntry, hk]
      rw [hput]
      rcases ih with ⟨u, hu⟩ | ⟨before, k', w', u, after, hk', hes, hu⟩
      · exact .inl ⟨u, congrArg ((k, w) :: ·) hu⟩
      · exact .inr ⟨(k, w) :: before, k', w', u, after, hk', congrArg ((k, w) :: ·) hes,
          congrArg ((k, w) :: ·) hu⟩

theorem find?_putEntry {es : List (Value × Value)} {key v : Value} {s : String}
    (h : key ≠ .text s) :
    (putEntry es key v).find? (fun e => e.1.sameKey (.text s)) =
      es.find? (fun e => e.1.sameKey (.text s)) := by
  induction es with
  | nil =>
    have hk : key.sameKey (.text s) = false := by
      rw [← Bool.not_eq_true, Value.sameKey_text]
      exact h
    simp [putEntry, hk]
  | cons e es ih =>
    obtain ⟨k, w⟩ := e
    rw [putEntry]
    split
    · rename_i hkk
      -- an entry that is overwritten is not one for `s`
      have hks : k.sameKey (.text s) = false := by
        rw [← Bool.not_eq_true, Value.sameKey_text]
        rintro rfl
        have : key = .text s := by
          cases key with
          | text t =>
            have ht : s = t := by simpa [Value.sameKey] using hkk
            rw [ht]
          | _ => simp [Value.sameKey, Value.number?] at hkk
        exact h this
      simp [hks]
    · simp only [List.find?_cons, ih]

theorem get?_put_of_ne {c : Context} {key v : Value} {s : String} (h : key ≠ .text s) :
    (c.put key v).get? s = c.get? s :=
  congrArg _ (find?_putEntry h)

theorem eq_or_changedAt_of_store {c c' : Context} {name v : Value}
    (hs : Action.store c name v = .ok c') : c' = c ∨ name.truthy = true ∧ ChangedAt name c c' := by
  obtain ⟨-, rfl⟩ := Action.store_eq_ok_iff.1 hs
  cases name.truthy with
  | false => exact .inl rfl
  | true => exact .inr ⟨rfl, putEntry_changes c.entries name v⟩

theorem get?_of_store {c c' : Context} {name v : Value} {s : String}
    (hs : Action.store c name v = .ok c') (h : name ≠ .text s) : c'.get? s = c.get? s := by
  obtain ⟨-, rfl⟩ := Action.store_eq_ok_iff.1 hs
  cases name.truthy with
  | false => rfl
  | true => exact get?_put_of_ne h

/-- A key that is the same as itself finds what was put under it. -/
theorem lookup_put_self (c : Context) {key : Value} (v : Value) (h : key.sameKey key = true) :
    (c.put key v).lookup key = some v := by
  have hput : ∀ es : List (Value × Value),
      ∃ k, (putEntry es key v).find? (fun e => e.1.sameKey key) = some (k, v) := by
    intro es
    induction es with
    | nil => exact ⟨key, by simp [putEntry, h]⟩
    | cons e es ih =>
      obtain ⟨k, w⟩ := e
      rw [putEntry]
      split
      · next hk => exact ⟨k, by simp [hk]⟩
      · next hk =>
        rw [List.find?_cons]
        simpa [hk] using ih
  obtain ⟨k, hk⟩ := hput c.entries
  exact congrArg (Option.map _) hk

theorem get?_of_store_self {c c' : Context} {k : String} {v : Value} (hk : k ≠ "")
    (hs : Action.store c (.text k) v = .ok c') : c'.get? k = some v := by
  have htruthy : (Value.text k).truthy = true := by simpa [Value.truthy] using hk
  obtain ⟨-, rfl⟩ := Action.store_eq_ok_iff.1 hs
  rw [if_pos htruthy]
  exact lookup_put_self c v (Value.sameKey_text.2 rfl)

end Context
end TestWorker
