import Mathlib.Data.List.Basic

namespace TestWorker
variable {α β : Type}

/-- The third list is made of the other two, of which each keeps its order. -/
inductive Interleaves : List α → List α → List α → Prop
  | nil : Interleaves [] [] []
  | left {xs ys zs : List α} (a : α) : Interleaves xs ys zs → Interleaves (xs ++ [a]) ys (zs ++ [a])
  | right {xs ys zs : List α} (a : α) :
      Interleaves xs ys zs → Interleaves xs (ys ++ [a]) (zs ++ [a])

namespace Interleaves
variable {xs ys zs : List α}

theorem length (h : Interleaves xs ys zs) : zs.length = xs.length + ys.length := by
  induction h with
  | nil => rfl
  | left a _ ih => simp only [List.length_append, ih]; omega
  | right a _ ih => simp only [List.length_append, ih]; omega

theorem append_left (h : Interleaves xs ys zs) (as : List α) :
    Interleaves (xs ++ as) ys (zs ++ as) := by
  induction as generalizing xs zs with
  | nil => simpa using h
  | cons a as ih => simpa using ih (h.left a)

theorem filterMap_eq (h : Interleaves xs ys zs) {f : α → Option β} (hf : ∀ a ∈ ys, f a = none) :
    zs.filterMap f = xs.filterMap f := by
  induction h with
  | nil => rfl
  | left a _ ih => rw [List.filterMap_append, List.filterMap_append, ih hf]
  | right a _ ih =>
    have ha : f a = none := hf a (List.mem_append_right _ List.mem_cons_self)
    rw [List.filterMap_append, ih fun b hb => hf b (List.mem_append_left _ hb),
      List.filterMap_cons_none ha]
    exact List.append_nil _

end Interleaves

/-- Each place in the third list has a place in the first list, or else it is one of the second. -/
structure Numbering (f : Nat → Option Nat) (xs ys zs : List α) : Prop where
  beyond : ∀ i, zs.length ≤ i → f i = none
  same : ∀ i j, f i = some j → zs[i]? = xs[j]?
  left : (List.range zs.length).filterMap f = List.range xs.length
  right : ((List.range zs.length).filter fun i => (f i).isNone).filterMap (zs[·]?) = ys

theorem filterMap_getElem?_append (zs : List α) (a : α) (p : Nat → Bool) :
    ((List.range zs.length).filter p).filterMap ((zs ++ [a])[·]?) =
      ((List.range zs.length).filter p).filterMap (zs[·]?) := by
  refine List.filterMap_congr fun i hi => ?_
  exact List.getElem?_append_left (List.mem_range.1 (List.mem_filter.1 hi).1)

theorem Numbering.lt {f : Nat → Option Nat} {xs ys zs : List α}
    (h : Numbering f xs ys zs) {i j : Nat} (hij : f i = some j) : i < zs.length := by
  refine Nat.lt_of_not_le fun hle => ?_
  rw [h.beyond i hle] at hij
  cases hij

theorem Numbering.mem_right {f : Nat → Option Nat} {xs ys zs : List α}
    (h : Numbering f xs ys zs) {i : Nat} (hi : i < zs.length) (hnone : f i = none) :
    zs[i] ∈ ys := by
  rw [← h.right]
  exact List.mem_filterMap.2 ⟨i, by simp [hi, hnone], List.getElem?_eq_getElem hi⟩

theorem Interleaves.exists_numbering {xs ys zs : List α} (h : Interleaves xs ys zs) :
    ∃ f, Numbering f xs ys zs := by
  induction h with
  | nil => exact ⟨fun _ => none, fun _ _ => rfl, nofun, rfl, rfl⟩
  | @left xs ys zs a _ ih =>
    obtain ⟨f, hf⟩ := ih
    -- the new place is the last one of both lists
    let g (i : Nat) : Option Nat := if i = zs.length then some xs.length else f i
    have hg {i : Nat} (hi : i ≠ zs.length) : g i = f i := if_neg hi
    have hlast : g zs.length = some xs.length := if_pos rfl
    have hrange : ∀ i ∈ List.range zs.length, g i = f i :=
      fun i hi => hg (Nat.ne_of_lt (List.mem_range.1 hi))
    refine ⟨g, fun i hi => ?_, fun i j hij => ?_, ?_, ?_⟩
    · rw [List.length_append, List.length_singleton] at hi
      rw [hg (by omega)]
      exact hf.beyond i (by omega)
    · by_cases hi : i = zs.length
      · rw [hi, hlast] at hij
        cases hij
        simp [hi]
      · rw [hg hi] at hij
        have hlt := hf.lt hij
        have hget := hf.same i j hij
        rw [List.getElem?_eq_getElem hlt] at hget
        have hj : j < xs.length := (List.getElem?_eq_some_iff.1 hget.symm).1
        rw [List.getElem?_append_left hlt, List.getElem?_append_left hj,
          List.getElem?_eq_getElem hlt, hget]
    · rw [List.length_append, List.length_append, List.length_singleton,
        List.range_succ, List.range_succ, List.filterMap_append, List.filterMap_congr hrange,
        hf.left]
      simp [hlast]
    · have hfilter : (List.range zs.length).filter (fun i => (g i).isNone) =
          (List.range zs.length).filter fun i => (f i).isNone :=
        List.filter_congr fun i hi => by rw [hrange i hi]
      rw [List.length_append, List.length_singleton, List.range_succ, List.filter_append, hfilter,
        List.filterMap_append, filterMap_getElem?_append, hf.right]
      simp [hlast]
  | @right xs ys zs a _ ih =>
    obtain ⟨f, hf⟩ := ih
    -- beyond the end there is no number yet, which is right for the new place too
    have hlast : f zs.length = none := hf.beyond _ (Nat.le_refl _)
    refine ⟨f, fun i hi => ?_, fun i j hij => ?_, ?_, ?_⟩
    · rw [List.length_append, List.length_singleton] at hi
      exact hf.beyond i (by omega)
    · rw [List.getElem?_append_left (hf.lt hij)]
      exact hf.same i j hij
    · rw [List.length_append, List.length_singleton, List.range_succ,
        List.filterMap_append, hf.left]
      simp [hlast]
    · rw [List.length_append, List.length_singleton, List.range_succ, List.filter_append,
        List.filterMap_append, filterMap_getElem?_append, hf.right]
      simp [hlast]

end TestWorker
