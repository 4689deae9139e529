import TestWorker.Value

namespace TestWorker.Entries
variable {α β : Type}

def without (es : List (String × α)) (names : List String) : List (String × α) :=
  es.filter fun e => decide (e.1 ∉ names)

theorem mem_without {es : List (String × α)} {names : List String} {e : String × α} :
    e ∈ without es names ↔ e ∈ es ∧ e.1 ∉ names := by
  simp [without]

theorem get?_without_of_mem (es : List (String × α)) {names : List String}
    {k : String} (h : k ∈ names) :
    get? (without es names) k = none := by
  apply List.lookup_eq_none_iff.2
  intro e he
  have hne : e.1 ∉ names := (mem_without.1 he).2
  have : k ≠ e.1 := fun hk => hne (hk ▸ h)
  simpa using this

theorem get?_cons (k' : String) (v : α) (es : List (String × α)) (k : String) :
    get? ((k', v) :: es) k = if k = k' then some v else get? es k := by
  by_cases h : k = k'
  · simp [get?, h]
  · have hne : (k == k') = false := by simpa using h
    simp [get?, List.lookup_cons, hne, h]

theorem get?_without_of_not_mem (es : List (String × α)) {names : List String}
    {k : String} (h : k ∉ names) :
    get? (without es names) k = get? es k := by
  induction es with
  | nil => rfl
  | cons e es ih =>
    obtain ⟨k', v⟩ := e
    by_cases hk : k' ∈ names
    · have hne : k ≠ k' := fun he => h (he ▸ hk)
      rw [get?_cons, if_neg hne, ← ih]
      simp [without, hk]
    · have hcons : without ((k', v) :: es) names = (k', v) :: without es names := by
        simp [without, hk]
      rw [hcons, get?_cons, get?_cons, ih]

theorem get?_put (es : List (String × α)) (k' : String) (v : α) (k : String) :
    get? (put es k' v) k = if k = k' then some v else get? es k := by
  induction es with
  | nil => exact get?_cons k' v [] k
  | cons e es ih =>
    obtain ⟨k'', w⟩ := e
    rw [put]
    split
    · rename_i heq
      obtain rfl : k'' = k' := beq_iff_eq.1 heq
      rw [get?_cons, get?_cons]
      split <;> rfl
    · rename_i hne
      rw [beq_iff_eq] at hne
      rw [get?_cons, get?_cons, ih]
      split
      · rename_i hk
        rw [if_neg (hk ▸ hne)]
      · rfl

def last? (es : List (String × α)) (k : String) : Option α := es.reverse.lookup k

theorem last?_cons (k' : String) (v : α) (es : List (String × α)) (k : String) :
    last? ((k', v) :: es) k = (last? es k).or (if k = k' then some v else none) := by
  rw [last?, List.reverse_cons, List.lookup_append]
  exact congrArg _ (get?_cons k' v [] k)

theorem get?_merge (es fs : List (String × α)) (k : String) :
    get? (merge es fs) k = (last? fs k).or (get? es k) := by
  induction fs generalizing es with
  | nil => rfl
  | cons f fs ih =>
    obtain ⟨k', v⟩ := f
    have hstep : merge es ((k', v) :: fs) = merge (put es k' v) fs := rfl
    rw [hstep, ih, get?_put, last?_cons, Option.or_assoc]
    split <;> rfl

theorem get?_ofList (es : List (String × α)) (k : String) : get? (ofList es) k = last? es k := by
  rw [ofList, get?_merge]
  exact Option.or_none

theorem mem_of_get? {es : List (String × α)} {key : String} {v : α} (h : get? es key = some v) :
    (key, v) ∈ es := by
  induction es with
  | nil => cases h
  | cons e es ih =>
    rw [get?, List.lookup_cons] at h
    split at h
    · next hkey =>
      obtain rfl : e.2 = v := by simpa using h
      rw [beq_iff_eq.1 hkey]
      exact List.mem_cons_self
    · exact List.mem_cons_of_mem _ (ih h)

theorem mem_put {es : List (String × α)} {key : String} {v : α}
    {e : String × α} (h : e ∈ put es key v) :
    e ∈ es ∨ e.2 = v := by
  induction es with
  | nil => exact .inr (by rw [List.mem_singleton.1 h])
  | cons d es ih =>
    rw [put] at h
    split at h
    · rcases List.mem_cons.1 h with rfl | h
      · exact .inr rfl
      · exact .inl (List.mem_cons_of_mem _ h)
    · rcases List.mem_cons.1 h with rfl | h
      · exact .inl List.mem_cons_self
      · exact (ih h).imp (List.mem_cons_of_mem _) id

theorem exists_mem_of_mem_merge {es fs : List (String × α)} {e : String × α} (h : e ∈ merge es fs) :
    e ∈ es ∨ ∃ f ∈ fs, f.2 = e.2 := by
  induction fs generalizing es with
  | nil => exact .inl h
  | cons f fs ih =>
    rcases ih h with h | ⟨g, hg, hv⟩
    · rcases mem_put h with h | hv
      · exact .inl h
      · exact .inr ⟨f, List.mem_cons_self, hv.symm⟩
    · exact .inr ⟨g, List.mem_cons_of_mem _ hg, hv⟩

theorem mem_ofList {es : List (String × α)} {e : String × α} (h : e ∈ ofList es) :
    ∃ f ∈ es, f.2 = e.2 := by
  rcases exists_mem_of_mem_merge h with h | h
  · cases h
  · exact h

theorem map_without (f : α → β) (es : List (String × α)) (names : List String) :
    (without es names).map (fun e => (e.1, f e.2)) =
      without (es.map fun e => (e.1, f e.2)) names := by
  simp [without, List.filter_map, Function.comp_def]

theorem map_put (f : α → β) (es : List (String × α)) (key : String) (v : α) :
    (put es key v).map (fun e => (e.1, f e.2)) = put (es.map fun e => (e.1, f e.2)) key (f v) := by
  induction es with
  | nil => rfl
  | cons e es ih =>
    rw [put, List.map_cons, put]
    split
    · rfl
    · rw [List.map_cons, ih]

/-- What is told of the entries stays if one of them changes to a value that is told alike. -/
theorem map_put_of_get? {f : α → β} {es : List (String × α)} {key : String} {v w : α}
    (h : get? es key = some v) (hf : f w = f v) :
    (put es key w).map (fun e => (e.1, f e.2)) = es.map fun e => (e.1, f e.2) := by
  induction es with
  | nil => cases h
  | cons e es ih =>
    obtain ⟨k, u⟩ := e
    rw [get?_cons] at h
    rw [put]
    split
    · next hk =>
      rw [if_pos (beq_iff_eq.1 hk).symm] at h
      rw [List.map_cons, List.map_cons, hf, Option.some.inj h]
    · next hk =>
      rw [if_neg fun heq => hk (beq_iff_eq.2 heq.symm)] at h
      rw [List.map_cons, List.map_cons, ih h]

theorem mem_put_of_ne {es : List (String × α)} {e : String × α}
    (h : e ∈ es) {key : String} (hne : e.1 ≠ key) (v : α) : e ∈ put es key v := by
  induction es with
  | nil => cases h
  | cons d es ih =>
    rw [put]
    rcases List.mem_cons.1 h with rfl | h
    · rw [if_neg (by simpa using hne)]
      exact List.mem_cons_self
    split
    · exact List.mem_cons_of_mem _ h
    · exact List.mem_cons_of_mem _ (ih h)

theorem put_of_forall_ne {es : List (String × α)} {key : String} (h : ∀ e ∈ es, e.1 ≠ key) (v : α) :
    put es key v = es ++ [(key, v)] := by
  induction es with
  | nil => rfl
  | cons e es ih =>
    rw [put, if_neg (by simpa using h e List.mem_cons_self),
      ih fun d hd => h d (List.mem_cons_of_mem _ hd)]
    rfl

theorem merge_of_nodup {es fs : List (String × α)} (h : ((es ++ fs).map (·.1)).Nodup) :
    merge es fs = es ++ fs := by
  induction fs generalizing es with
  | nil => rw [List.append_nil]; rfl
  | cons f fs ih =>
    obtain ⟨k, v⟩ := f
    have hstep : merge es ((k, v) :: fs) = merge (put es k v) fs := rfl
    have hnew : ∀ e ∈ es, e.1 ≠ k := by
      intro e he hk
      rw [List.map_append, List.nodup_append] at h
      exact h.2.2 _ (List.mem_map_of_mem he) _ List.mem_cons_self hk
    rw [hstep, put_of_forall_ne hnew, ih (by simpa using h), List.append_assoc]
    rfl

theorem ofList_of_nodup {es : List (String × α)} (h : (es.map (·.1)).Nodup) : ofList es = es :=
  merge_of_nodup ((List.nil_append es).symm ▸ h)

end TestWorker.Entries
