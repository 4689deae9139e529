import TestWorker.Proofs.Cycle.Half
import TestWorker.Proofs.Shift.Routine

namespace TestWorker.Cycle

def numbers (cs : List Cycle) : List Nat := cs.map number

theorem number_find (cs : List Cycle) (n : Nat) : (find cs n).number = n := by
  unfold find
  cases h : cs.find? (·.number == n) with
  | none => rfl
  | some c => simpa using List.find?_some h

theorem find_append (cs : List Cycle) (c : Cycle) (n : Nat) (h : c.number ∉ numbers cs) :
    find (cs ++ [c]) n = if n = c.number then c else find cs n := by
  unfold find
  rw [List.find?_append]
  by_cases hn : n = c.number
  · have hnone : cs.find? (·.number == n) = none := by
      rw [List.find?_eq_none]
      intro d hd hdn
      have : d.number = c.number := by simpa [hn] using hdn
      exact h (this ▸ List.mem_map_of_mem hd)
    rw [hnone, if_pos hn]
    simp [hn]
  · have hnone : [c].find? (·.number == n) = none := by
      simpa using fun h => hn h.symm
    rw [hnone, if_neg hn, Option.or_none]

theorem find_of_not_mem {cs : List Cycle} {n : Nat} (h : n ∉ numbers cs) :
    find cs n = ⟨n, [], none⟩ := by
  have hnone : cs.find? (·.number == n) = none := by
    rw [List.find?_eq_none]
    intro d hd hdn
    have : d.number = n := by simpa using hdn
    exact h (this ▸ List.mem_map_of_mem hd)
  rw [find, hnone]
  rfl

@[simp] theorem numbers_put (cs : List Cycle) (c : Cycle) : numbers (put cs c) = numbers cs := by
  rw [numbers, put, List.map_map]
  apply List.map_congr_left
  intro d _
  by_cases h : d.number = c.number <;> simp [h]

theorem find_put (cs : List Cycle) (c : Cycle) (n : Nat) (h : c.number ∈ numbers cs) :
    find (put cs c) n = if n = c.number then c else find cs n := by
  have hfind : (put cs c).find? (·.number == n) =
      (cs.find? (·.number == n)).map fun d => if d.number == c.number then c else d := by
    rw [put, List.find?_map]
    congr 2
    funext d
    by_cases hd : d.number = c.number <;> simp [hd]
  rw [find, hfind]
  cases hd : cs.find? (·.number == n) with
  | none =>
    have hn : n ≠ c.number := by
      rintro rfl
      obtain ⟨d, hmem, hdc⟩ := List.mem_map.1 h
      exact (List.find?_eq_none.1 hd) d hmem (by simpa using hdc)
    rw [if_neg hn, find, hd]
    rfl
  | some d =>
    have hdn : d.number = n := by simpa using List.find?_some hd
    simp [find, hd, hdn]

def Shaped (c : Cycle) : Prop := c.halves.map Prod.fst = kinds

theorem Shaped.halves {c : Cycle} (h : c.Shaped) :
    c.halves = [(.tests, c.half .tests), (.requests, c.half .requests)] := by
  obtain ⟨n, halves, outcome⟩ := c
  simp only [Shaped, kinds, List.map_eq_cons_iff, List.map_eq_nil_iff] at h
  obtain ⟨⟨_, h₁⟩, _, rfl, rfl, ⟨_, h₂⟩, _, rfl, rfl, rfl⟩ := h
  rfl

theorem Shaped.setHalf {c : Cycle} (h : c.Shaped) (k : Coordinator.Kind) (x : Half) :
    (c.setHalf k x).Shaped := by
  rw [Shaped, Cycle.setHalf, h.halves]
  cases k <;> rfl

theorem half_setHalf {c : Cycle} (h : c.Shaped) (k j : Coordinator.Kind) (x : Half) :
    (c.setHalf k x).half j = if j = k then x else c.half j := by
  rw [half, Cycle.setHalf, h.halves]
  cases k <;> cases j <;> rfl

/-- A cycle that has nothing to wait for: one of its halves has failed, or both have ended. -/
def Over (c : Cycle) : Prop :=
  (∃ k f, c.half k = .ended (.error f)) ∨ ∀ k, (c.half k).hasEnded = true

theorem over_of_finished {c : Cycle} (h : c.Shaped) (hc : c.finished = true) : c.Over := by
  rw [finished, h.halves] at hc
  right
  intro k
  cases k <;> simp_all

/-- The half of a kind moves on; the other halves and the outcomes stay. -/
structure Moves (cs ds : List Cycle) (n : Nat) (k : Coordinator.Kind) (h : Half) : Prop where
  numbers : numbers ds = numbers cs
  shaped : ∀ m ∈ Cycle.numbers cs, (find ds m).Shaped
  half : (find ds n).half k = h
  other : ∀ m j, ¬(m = n ∧ j = k) → (find ds m).half j = (find cs m).half j
  outcome : ∀ m, (find ds m).outcome = (find cs m).outcome

theorem moves_refl {cs : List Cycle} {n : Nat} {k : Coordinator.Kind}
    (hshaped : ∀ m ∈ numbers cs, (find cs m).Shaped) : Moves cs cs n k ((find cs n).half k) :=
  ⟨rfl, hshaped, rfl, fun _ _ _ => rfl, fun _ => rfl⟩

theorem moves_put {cs : List Cycle} {n : Nat} {k : Coordinator.Kind} {h : Half}
    (hshaped : ∀ m ∈ numbers cs, (find cs m).Shaped) (hn : n ∈ numbers cs) :
    Moves cs (put cs ((find cs n).setHalf k h)) n k h := by
  have hnumber : ((find cs n).setHalf k h).number = n := number_find cs n
  have hfind (m : Nat) : find (put cs ((find cs n).setHalf k h)) m =
      if m = n then (find cs n).setHalf k h else find cs m := by
    rw [find_put _ _ _ (hnumber.symm ▸ hn), hnumber]
  refine ⟨numbers_put _ _, fun m hm => ?_, ?_, fun m j hmj => ?_, fun m => ?_⟩
  · rw [hfind]
    split
    · exact (hshaped n hn).setHalf k h
    · exact hshaped m hm
  · rw [hfind, if_pos rfl, half_setHalf (hshaped n hn), if_pos rfl]
  · rw [hfind]
    split
    · next hm =>
      rw [half_setHalf (hshaped n hn), if_neg fun hj => hmj ⟨hm, hj⟩, hm]
    · rfl
  · rw [hfind]
    split
    · next hm => rw [hm]; rfl
    · rfl

def liftHalf (n : Nat) (k : Coordinator.Kind) : Strand Half.Tag.Result → Strand Tag.Result
  | ⟨.fetch, a⟩ => ⟨.fetch n k, a⟩
  | ⟨.work t, a⟩ => ⟨.work n k t, a⟩
  | ⟨.tally, a⟩ => ⟨.tally n k, a⟩
  | ⟨.conclude, a⟩ => ⟨.conclude n k, a⟩

def liftEnding (n : Nat) (k : Coordinator.Kind) (now : Instant) :
    (t : Half.Tag) → t.Result → Multiset (Strand Tag.Result) → Ending Tag.Result
  | .fetch, r, follows => ⟨now, .fetch n k, r, follows⟩
  | .work t, r, follows => ⟨now, .work n k t, r, follows⟩
  | .tally, r, follows => ⟨now, .tally n k, r, follows⟩
  | .conclude, r, follows => ⟨now, .conclude n k, r, follows⟩

def split : Strand Tag.Result → Option ((Nat × Coordinator.Kind) × Strand Half.Tag.Result)
  | ⟨.fetch n k, a⟩ => some ((n, k), ⟨.fetch, a⟩)
  | ⟨.work n k t, a⟩ => some ((n, k), ⟨.work t, a⟩)
  | ⟨.tally n k, a⟩ => some ((n, k), ⟨.tally, a⟩)
  | ⟨.conclude n k, a⟩ => some ((n, k), ⟨.conclude, a⟩)
  | ⟨.settle .., _⟩ | ⟨.close _, _⟩ => none

def only {α : Type} (n : Nat) (k : Coordinator.Kind) (x : (Nat × Coordinator.Kind) × α) :
    Option α :=
  if x.1 = (n, k) then some x.2 else none

def half? (n : Nat) (k : Coordinator.Kind) (s : Strand Tag.Result) :
    Option (Strand Half.Tag.Result) :=
  (split s).bind (only n k)

def splitEnding : Ending Tag.Result → Option ((Nat × Coordinator.Kind) × Ending Half.Tag.Result)
  | ⟨now, .fetch n k, r, follows⟩ => some ((n, k), ⟨now, .fetch, r, follows.filterMap (half? n k)⟩)
  | ⟨now, .work n k t, r, follows⟩ =>
    some ((n, k), ⟨now, .work t, r, follows.filterMap (half? n k)⟩)
  | ⟨now, .tally n k, r, follows⟩ => some ((n, k), ⟨now, .tally, r, follows.filterMap (half? n k)⟩)
  | ⟨now, .conclude n k, r, follows⟩ =>
    some ((n, k), ⟨now, .conclude, r, follows.filterMap (half? n k)⟩)
  | ⟨_, .settle .., _, _⟩ | ⟨_, .close _, _, _⟩ => none

def halfEnding? (n : Nat) (k : Coordinator.Kind) (e : Ending Tag.Result) :
    Option (Ending Half.Tag.Result) :=
  (splitEnding e).bind (only n k)

def strandsOf (n : Nat) (k : Coordinator.Kind) (xs : Multiset (Strand Tag.Result)) :
    Multiset (Strand Half.Tag.Result) := xs.filterMap (half? n k)

def logOf (n : Nat) (k : Coordinator.Kind) (log : List (Ending Tag.Result)) :
    List (Ending Half.Tag.Result) :=
  log.filterMap (halfEnding? n k)

def Tag.cycle : Tag → Nat
  | fetch n _ | work n _ _ | tally n _ | conclude n _ | settle n _ | close n => n

theorem half?_liftHalf (n m : Nat) (k j : Coordinator.Kind) (s : Strand Half.Tag.Result) :
    half? m j (liftHalf n k s) = if (n, k) = (m, j) then some s else none := by
  obtain ⟨t, a⟩ := s
  cases t <;> rfl

theorem halfEnding?_liftEnding (n m : Nat) (k j : Coordinator.Kind) (now : Instant) (t : Half.Tag)
    (r : t.Result) (follows : Multiset (Strand Tag.Result)) :
    halfEnding? m j (liftEnding n k now t r follows) =
      if (n, k) = (m, j) then some ⟨now, t, r, strandsOf n k follows⟩ else none := by
  cases t <;> rfl

theorem cycle_liftHalf (n : Nat) (k : Coordinator.Kind) (s : Strand Half.Tag.Result) :
    (liftHalf n k s).tag.cycle = n := by
  obtain ⟨t, a⟩ := s
  cases t <;> rfl

theorem cycle_liftEnding (n : Nat) (k : Coordinator.Kind) (now : Instant)
    (t : Half.Tag) (r : t.Result) (follows : Multiset (Strand Tag.Result)) :
    (liftEnding n k now t r follows).tag.cycle = n := by
  cases t <;> rfl

theorem half?_of_cycle_ne {n : Nat} {k : Coordinator.Kind} {s : Strand Tag.Result}
    (h : s.tag.cycle ≠ n) :
    half? n k s = none := by
  obtain ⟨t, a⟩ := s
  cases t <;> simp_all [half?, split, only, Tag.cycle]

theorem halfEnding?_of_cycle_ne {n : Nat} {k : Coordinator.Kind} {e : Ending Tag.Result}
    (h : e.tag.cycle ≠ n) : halfEnding? n k e = none := by
  obtain ⟨now, t, r, follows⟩ := e
  cases t <;> simp_all [halfEnding?, splitEnding, only, Tag.cycle]

/-- A strand stays where it belongs while it waits. -/
theorem half?_later {n : Nat} {k : Coordinator.Kind} {t : Tag} {a b : Activity t.Result}
    (hb : Activity.Later b a) :
    (half? n k ⟨t, a⟩ = none ∧ half? n k ⟨t, b⟩ = none) ∨
    ∃ (t' : Half.Tag) (a' b' : Activity t'.Result), Activity.Later b' a' ∧
      half? n k ⟨t, a⟩ = some ⟨t', a'⟩ ∧ half? n k ⟨t, b⟩ = some ⟨t', b'⟩ := by
  have hcases (t' : Half.Tag) (a' b' : Activity t'.Result) (hb' : Activity.Later b' a') (m : Nat)
      (j : Coordinator.Kind) (ha : split ⟨t, a⟩ = some ((m, j), ⟨t', a'⟩))
      (hb : split ⟨t, b⟩ = some ((m, j), ⟨t', b'⟩)) :
      (half? n k ⟨t, a⟩ = none ∧ half? n k ⟨t, b⟩ = none) ∨
      ∃ (t' : Half.Tag) (a' b' : Activity t'.Result), Activity.Later b' a' ∧
        half? n k ⟨t, a⟩ = some ⟨t', a'⟩ ∧ half? n k ⟨t, b⟩ = some ⟨t', b'⟩ := by
    by_cases h : (m, j) = (n, k)
    · exact .inr ⟨t', a', b', hb', by simp [half?, ha, only, h], by simp [half?, hb, only, h]⟩
    · exact .inl ⟨by simp [half?, ha, only, h], by simp [half?, hb, only, h]⟩
  cases t with
  | fetch m j => exact hcases .fetch a b hb m j rfl rfl
  | work m j t => exact hcases (.work t) a b hb m j rfl rfl
  | tally m j => exact hcases .tally a b hb m j rfl rfl
  | conclude m j => exact hcases .conclude a b hb m j rfl rfl
  | settle m j => exact .inl ⟨rfl, rfl⟩
  | close m => exact .inl ⟨rfl, rfl⟩

/-- What holds throughout the cycles of a worker. -/
structure Sound (w : Worker) (b e : Multiset Nat) (log : List (Ending Tag.Result)) (cs : List Cycle)
    (xs : Multiset (Strand Tag.Result)) : Prop where
  numbers : (numbers cs : Multiset Nat) = b
  nodup : b.Nodup
  shaped : ∀ n ∈ Cycle.numbers cs, (find cs n).Shaped
  known : ∀ x ∈ xs, x.tag.cycle ∈ b
  told : ∀ x ∈ log, x.tag.cycle ∈ b
  /-- Each half goes as it would alone. -/
  half : ∀ n ∈ b, ∀ k, Half.Course w k (logOf n k log) ((find cs n).half k) (strandsOf n k xs)
  settle : ∀ n k, .settle n k ∈ tags xs → (find cs n).Over
  outcome : ∀ n, (find cs n).outcome.isSome → (find cs n).Over
  /-- The end of a cycle is told once its outcome is known, and once only. -/
  close : ∀ n, (tags xs).count (.close n) + e.count n = if (find cs n).outcome.isSome then 1 else 0

variable {w : Worker} {b e : Multiset Nat} {log : List (Ending Tag.Result)} {cs : List Cycle}
  {xs : Multiset (Strand Tag.Result)}

theorem sound_nil (w : Worker) : Sound w 0 0 [] [] 0 := by
  have hfind (n : Nat) : find [] n = ⟨n, [], none⟩ := rfl
  refine ⟨rfl, Multiset.nodup_zero, ?_, ?_, ?_, ?_, ?_, ?_, ?_⟩ <;> simp [Cycle.numbers, hfind]

theorem strandsOf_add (n : Nat) (k : Coordinator.Kind) (xs ys : Multiset (Strand Tag.Result)) :
    strandsOf n k (xs + ys) = strandsOf n k xs + strandsOf n k ys := Multiset.filterMap_add _ _ _

theorem strandsOf_eq_zero {n : Nat} {k : Coordinator.Kind} (h : ∀ x ∈ xs, x.tag.cycle ≠ n) :
    strandsOf n k xs = 0 := by
  refine Multiset.eq_zero_of_forall_notMem fun y hy => ?_
  obtain ⟨x, hx, hxy⟩ := (Multiset.mem_filterMap _ _).1 hy
  rw [half?_of_cycle_ne (h x hx)] at hxy
  cases hxy

theorem logOf_eq_nil {n : Nat} {k : Coordinator.Kind} (h : ∀ x ∈ log, x.tag.cycle ≠ n) :
    logOf n k log = [] :=
  List.filterMap_eq_nil_iff.2 fun x hx => halfEnding?_of_cycle_ne (h x hx)

/-- A cycle begins: both halves fetch. -/
theorem Sound.begin {n : Nat} (h : Sound w b e log cs xs) (hn : n ∉ b) :
    Sound w (n ::ₘ b) e log ((routine w).begin n cs).state
      (((routine w).begin n cs).strands + xs) := by
  have hstrands : ((routine w).begin n cs).strands =
      {⟨.fetch n .tests, fetch w .tests⟩, ⟨.fetch n .requests, fetch w .requests⟩} := rfl
  have hstate : ((routine w).begin n cs).state =
      cs ++ [⟨n, [(.tests, .fetching), (.requests, .fetching)], none⟩] := rfl
  have hnew : n ∉ Cycle.numbers cs := by
    rw [← Multiset.mem_coe, h.numbers]
    exact hn
  have hfind (m : Nat) : find (cs ++ [⟨n, [(.tests, .fetching), (.requests, .fetching)], none⟩]) m =
      if m = n then ⟨n, [(.tests, .fetching), (.requests, .fetching)], none⟩ else find cs m :=
    find_append cs _ m hnew
  have hgone : find cs n = ⟨n, [], none⟩ := find_of_not_mem hnew
  have hfetches (k : Coordinator.Kind) : strandsOf n k
      {⟨.fetch n .tests, fetch w .tests⟩, ⟨.fetch n .requests, fetch w .requests⟩} =
        {⟨.fetch, fetch w k⟩} := by
    cases k <;> simp [strandsOf, half?, split, only]
  have hothers {m : Nat} (hm : m ∈ b) (k : Coordinator.Kind) : strandsOf m k
      {⟨.fetch n .tests, fetch w .tests⟩, ⟨.fetch n .requests, fetch w .requests⟩} = 0 :=
    strandsOf_eq_zero fun x hx => by
      have hx : x.tag.cycle = n := by
        simp at hx
        obtain rfl | rfl := hx <;> rfl
      rintro rfl
      exact hn (hx ▸ hm)
  rw [hstate, hstrands]
  refine ⟨?_, h.nodup.cons hn, fun m hm => ?_, fun x hx => ?_,
    fun x hx => Multiset.mem_cons_of_mem (h.told x hx), fun m hm k => ?_, fun m k hm => ?_,
    fun m hm => ?_, fun m => ?_⟩
  · rw [← h.numbers]
    simp [Cycle.numbers]
  · rw [hfind]
    split
    · rfl
    · next hne =>
      refine h.shaped m ?_
      simpa [Cycle.numbers, hne] using hm
  · obtain hx | hx := Multiset.mem_add.1 hx
    · simp at hx
      obtain rfl | rfl := hx <;> exact Multiset.mem_cons_self _ _
    · exact Multiset.mem_cons_of_mem (h.known x hx)
  · rw [strandsOf_add, hfind]
    obtain rfl | hm := Multiset.mem_cons.1 hm
    · have hxs : strandsOf m k xs = 0 := strandsOf_eq_zero fun x hx hxm => hn (hxm ▸ h.known x hx)
      have hlog : logOf m k log = [] := logOf_eq_nil fun x hx hxm => hn (hxm ▸ h.told x hx)
      rw [if_pos rfl, hfetches, hxs, hlog]
      cases k <;> exact .fetching _
    · have hne : m ≠ n := fun heq => hn (heq ▸ hm)
      rw [hothers hm, zero_add, if_neg hne]
      exact h.half m hm k
  · have hold : .settle m k ∈ tags xs := by simpa using hm
    have hne : m ≠ n := by
      rintro rfl
      obtain ⟨x, hx, hxm⟩ := Multiset.mem_map.1 hold
      exact hn (by simpa [hxm, Tag.cycle] using h.known x hx)
    rw [hfind, if_neg hne]
    exact h.settle m k hold
  · rw [hfind] at hm ⊢
    split at hm
    · cases hm
    · next hne =>
      rw [if_neg hne]
      exact h.outcome m hm
  · have hclose := h.close m
    rw [hfind]
    split
    · next hm =>
      subst hm
      simpa [hgone] using hclose
    · simpa using hclose

theorem Sound.wait {t : Tag} {x y : Activity t.Result} (h : Sound w b e log cs (⟨t, x⟩ ::ₘ xs))
    (hy : Activity.Later y x) : Sound w b e log cs (⟨t, y⟩ ::ₘ xs) := by
  refine { h with known := ?_, half := ?_, settle := ?_, close := ?_ }
  · simpa using h.known
  · intro n hn k
    have hcourse := h.half n hn k
    obtain ⟨hx, hy⟩ | ⟨t', x', y', hlater, hx, hy⟩ := half?_later (n := n) (k := k) hy
    · rwa [strandsOf, Multiset.filterMap_cons_none _ _ hy, ← Multiset.filterMap_cons_none _ _ hx]
    · rw [strandsOf, Multiset.filterMap_cons_some _ _ _ hx] at hcourse
      rw [strandsOf, Multiset.filterMap_cons_some _ _ _ hy]
      exact hcourse.wait hlater
  · simpa using h.settle
  · simpa using h.close

theorem not_ended_of_cons {k : Coordinator.Kind} {hlog : List (Ending Half.Tag.Result)} {x : Half}
    {y : Strand Half.Tag.Result} {ys : Multiset (Strand Half.Tag.Result)}
    (h : Half.Course w k hlog x (y ::ₘ ys)) : x.hasEnded = false := by
  generalize hm : y ::ₘ ys = m at h
  cases h with
  | fetching | working | finishing => rfl
  | ended | failed => exact absurd hm Multiset.cons_ne_zero

theorem Over.moves {ds : List Cycle} {n m : Nat} {k : Coordinator.Kind}
    {x : Half} (h : (find cs m).Over) (hmoves : Moves cs ds n k x)
    (hgoes : ((find cs n).half k).hasEnded = false) : (find ds m).Over := by
  obtain ⟨j, f, hfailed⟩ | hall := h
  · refine .inl ⟨j, f, ?_⟩
    rw [hmoves.other m j ?_, hfailed]
    rintro ⟨rfl, rfl⟩
    rw [hfailed] at hgoes
    cases hgoes
  · refine .inr fun j => ?_
    rw [hmoves.other m j ?_]
    · exact hall j
    · rintro ⟨rfl, rfl⟩
      rw [hall j] at hgoes
      cases hgoes

theorem strandsOf_lift (n m : Nat) (k j : Coordinator.Kind)
    (ys : Multiset (Strand Half.Tag.Result)) :
    strandsOf m j (ys.map (liftHalf n k)) = if (n, k) = (m, j) then ys else 0 := by
  have hhalf : half? m j ∘ liftHalf n k = fun s => if (n, k) = (m, j) then some s else none :=
    funext fun s => half?_liftHalf n m k j s
  rw [strandsOf, Multiset.filterMap_map, hhalf]
  split
  · exact Multiset.filterMap_some ys
  · exact Multiset.eq_zero_of_forall_notMem fun y hy => by simp at hy

theorem tag_liftHalf (n : Nat) (k : Coordinator.Kind) (s : Strand Half.Tag.Result) :
    (∀ m j, (liftHalf n k s).tag ≠ .settle m j) ∧ ∀ m, (liftHalf n k s).tag ≠ .close m := by
  obtain ⟨t, a⟩ := s
  cases t <;> exact ⟨fun _ _ => nofun, fun _ => nofun⟩

/-- What a turn of a half leads to: strands of the half, and perhaps the one that settles its
cycle. -/
theorem tag_of_mem {n : Nat} {k : Coordinator.Kind} {ys : Multiset (Strand Half.Tag.Result)}
    {settles : Multiset (Strand Tag.Result)} {P : Prop}
    (hsettles : settles = 0 ∨ settles = {⟨.settle n k, .done ()⟩} ∧ P) {x : Strand Tag.Result}
    (hx : x ∈ ys.map (liftHalf n k) + settles) :
    x.tag.cycle = n ∧ (∀ m, x.tag ≠ .close m) ∧ ∀ m j, x.tag = .settle m j → m = n ∧ P := by
  obtain hx | hx := Multiset.mem_add.1 hx
  · obtain ⟨s, -, rfl⟩ := Multiset.mem_map.1 hx
    exact ⟨cycle_liftHalf n k s, (tag_liftHalf n k s).2,
      fun m j hm => absurd hm ((tag_liftHalf n k s).1 m j)⟩
  · obtain rfl | ⟨rfl, hP⟩ := hsettles
    · exact absurd hx (Multiset.notMem_zero _)
    · obtain rfl := Multiset.mem_singleton.1 hx
      refine ⟨rfl, nofun, ?_⟩
      rintro m j ⟨⟩
      exact ⟨rfl, hP⟩

/-- A strand of a half ends: the half moves on as it would alone, and may settle its cycle. -/
theorem Sound.turnHalf {n : Nat} {k : Coordinator.Kind} {now : Instant}
    {t : Half.Tag} {r : t.Result} {ds : List Cycle} {settles : Multiset (Strand Tag.Result)}
    (h : Sound w b e log cs (liftHalf n k ⟨t, .done r⟩ ::ₘ xs))
    (hmoves : Moves cs ds n k (Half.plan w k now t r ((find cs n).half k)).state)
    (hsettles : settles = 0 ∨ settles = {⟨.settle n k, .done ()⟩} ∧ (find ds n).Over) :
    let ys := (Half.plan w k now t r ((find cs n).half k)).strands.map (liftHalf n k) + settles
    Sound w b e (liftEnding n k now t r ys :: log) ds (ys + xs) := by
  intro ys
  have hn : n ∈ b := cycle_liftHalf n k ⟨t, .done r⟩ ▸ h.known _ (Multiset.mem_cons_self _ _)
  have hbefore : Half.Course w k (logOf n k log) ((find cs n).half k)
      (⟨t, .done r⟩ ::ₘ strandsOf n k xs) := by
    have hhalf : half? n k (liftHalf n k ⟨t, .done r⟩) = some ⟨t, .done r⟩ :=
      (half?_liftHalf n n k k _).trans (if_pos rfl)
    have hcourse := h.half n hn k
    rwa [strandsOf, Multiset.filterMap_cons_some _ _ _ hhalf] at hcourse
  have hgoes := not_ended_of_cons hbefore
  have hnone (m : Nat) (j : Coordinator.Kind) : strandsOf m j settles = 0 := by
    obtain rfl | ⟨rfl, -⟩ := hsettles <;> rfl
  have hys (m : Nat) (j : Coordinator.Kind) : strandsOf m j ys =
      if (n, k) = (m, j) then (Half.plan w k now t r ((find cs n).half k)).strands else 0 := by
    rw [strandsOf_add, strandsOf_lift, hnone, add_zero]
  refine ⟨?_, h.nodup, ?_, fun x hx => ?_, fun x hx => ?_, fun m hm j => ?_, fun m j hm => ?_,
    fun m hm => ?_, fun m => ?_⟩
  · rw [hmoves.numbers]
    exact h.numbers
  · rw [hmoves.numbers]
    exact hmoves.shaped
  · obtain hx | hx := Multiset.mem_add.1 hx
    · rw [(tag_of_mem hsettles hx).1]
      exact hn
    · exact h.known x (Multiset.mem_cons_of_mem hx)
  · obtain rfl | hx := List.mem_cons.1 hx
    · rw [cycle_liftEnding]
      exact hn
    · exact h.told x hx
  · rw [strandsOf_add, hys]
    -- this half takes the step that it would take alone; the others neither see it nor change
    by_cases hmj : (n, k) = (m, j)
    · obtain ⟨rfl, rfl⟩ := Prod.mk.inj hmj
      have hending := halfEnding?_liftEnding n n k k now t r ys
      rw [if_pos rfl, hys, if_pos rfl] at hending
      rw [if_pos rfl, hmoves.half, logOf, List.filterMap_cons_some hending]
      exact hbefore.turn
    · have hending := halfEnding?_liftEnding n m k j now t r ys
      rw [if_neg hmj] at hending
      rw [if_neg hmj, zero_add, logOf, List.filterMap_cons_none hending,
        hmoves.other m j fun heq => hmj (by rw [heq.1, heq.2])]
      have hcourse := h.half m hm j
      rwa [strandsOf, Multiset.filterMap_cons_none _ _
        ((half?_liftHalf n m k j _).trans (if_neg hmj))] at hcourse
  · obtain ⟨x, hx, hxm⟩ := Multiset.mem_map.1 hm
    obtain hx | hx := Multiset.mem_add.1 hx
    · obtain ⟨rfl, hover⟩ := (tag_of_mem hsettles hx).2.2 m j hxm
      exact hover
    · have hold : .settle m j ∈ tags (liftHalf n k ⟨t, .done r⟩ ::ₘ xs) :=
        Multiset.mem_map.2 ⟨x, Multiset.mem_cons_of_mem hx, hxm⟩
      exact (h.settle m j hold).moves hmoves hgoes
  · exact (h.outcome m (hmoves.outcome m ▸ hm)).moves hmoves hgoes
  · have hclose := h.close m
    rw [tags_cons, Multiset.count_cons_of_ne ((tag_liftHalf n k _).2 m).symm] at hclose
    have hcount : (tags ys).count (.close m) = 0 := by
      refine Multiset.count_eq_zero_of_notMem fun hmem => ?_
      obtain ⟨x, hx, hxm⟩ := Multiset.mem_map.1 hmem
      exact (tag_of_mem hsettles hx).2.1 m hxm
    rw [tags_add, Multiset.count_add, hcount, zero_add, hmoves.outcome]
    exact hclose

theorem Sound.mem {n : Nat} {k : Coordinator.Kind} {t : Half.Tag} {a : Activity t.Result}
    (h : Sound w b e log cs (liftHalf n k ⟨t, a⟩ ::ₘ xs)) : n ∈ Cycle.numbers cs := by
  rw [← Multiset.mem_coe, h.numbers, ← cycle_liftHalf n k ⟨t, a⟩]
  exact h.known _ (Multiset.mem_cons_self _ _)

/-- A half ends: a failure settles the cycle at once, success with the last half. -/
theorem Sound.turnEnd {n : Nat} {k : Coordinator.Kind} {now : Instant} {t : Half.Tag} {r : t.Result}
    {result : Except Fault Nat} (h : Sound w b e log cs (liftHalf n k ⟨t, .done r⟩ ::ₘ xs))
    (hplan : Half.plan w k now t r ((find cs n).half k) = { state := .ended result }) :
    let y := endHalf cs n k result
    Sound w b e (liftEnding n k now t r y.strands :: log) y.state (y.strands + xs) := by
  intro y
  have hn := h.mem
  have hmoves : Moves cs y.state n k (Half.plan w k now t r ((find cs n).half k)).state := by
    rw [hplan]
    exact moves_put h.shaped hn
  have hshaped : (find y.state n).Shaped := hmoves.shaped n hn
  have hhalf : (find y.state n).half k = .ended result := by rw [hmoves.half, hplan]
  have hnumber : ((find cs n).setHalf k (.ended result)).number = n := number_find cs n
  have hstate : find y.state n = (find cs n).setHalf k (.ended result) := by
    refine (find_put cs ((find cs n).setHalf k (.ended result)) n (hnumber.symm ▸ hn)).trans ?_
    rw [hnumber, if_pos rfl]
  have hstrands : y.strands =
      (Half.plan w k now t r ((find cs n).half k)).strands.map (liftHalf n k) + y.strands := by
    rw [hplan]
    exact (zero_add _).symm
  rw [hstrands]
  refine h.turnHalf hmoves ?_
  cases result with
  | error f => exact .inr ⟨rfl, .inl ⟨k, f, hhalf⟩⟩
  | ok m =>
    cases hfinished : ((find cs n).setHalf k (.ended (.ok m))).finished with
    | false =>
      left
      simp [y, endHalf, Reaction.strands, hfinished]
    | true =>
      right
      refine ⟨by simp [y, endHalf, Reaction.strands, hfinished], ?_⟩
      exact over_of_finished hshaped (hstate ▸ hfinished)

theorem Sound.turnOn {n : Nat} {k : Coordinator.Kind} {now : Instant}
    {t : Half.Tag} {r : t.Result} {y : Reaction Tag.Result (List Cycle)}
    (h : Sound w b e log cs (liftHalf n k ⟨t, .done r⟩ ::ₘ xs))
    (hmoves : Moves cs y.state n k (Half.plan w k now t r ((find cs n).half k)).state)
    (hfirst : y.first = (Half.plan w k now t r ((find cs n).half k)).first.map (liftHalf n k))
    (hlater : y.later = (Half.plan w k now t r ((find cs n).half k)).later.map (liftHalf n k)) :
    Sound w b e (liftEnding n k now t r y.strands :: log) y.state (y.strands + xs) := by
  have hstrands : y.strands =
      (Half.plan w k now t r ((find cs n).half k)).strands.map (liftHalf n k) + 0 := by
    rw [Reaction.strands, Reaction.strands, hfirst, hlater, Multiset.map_add, add_zero]
    rfl
  rw [hstrands]
  exact h.turnHalf hmoves (.inl rfl)

theorem map_lift (n : Nat) (k : Coordinator.Kind) (ys : List (Strand Batch.Tag.Result)) :
    ys.map (lift n k) = (ys.map Half.lift).map (liftHalf n k) := by
  rw [List.map_map]
  rfl

theorem Sound.fetched {n : Nat} {k : Coordinator.Kind}
    {now : Instant} {r : Except Fault (List Value)}
    (h : Sound w b e log cs (liftHalf n k ⟨.fetch, .done r⟩ ::ₘ xs)) :
    let y := (react w now (.fetch n k) r cs).1
    Sound w b e (liftEnding n k now .fetch r y.strands :: log) y.state (y.strands + xs) := by
  cases r with
  | error f => exact h.turnEnd rfl
  | ok raws =>
    cases raws with
    | nil => exact h.turnEnd rfl
    | cons raw raws => exact h.turnOn (moves_put h.shaped h.mem) rfl (map_lift _ _ _)

theorem Sound.worked {n : Nat} {k : Coordinator.Kind} {now : Instant} {t : Batch.Tag} {r : t.Result}
    (h : Sound w b e log cs (liftHalf n k ⟨.work t, .done r⟩ ::ₘ xs)) :
    let y := (react w now (.work n k t) r cs).1
    Sound w b e (liftEnding n k now (.work t) r y.strands :: log) y.state (y.strands + xs) := by
  intro y
  cases hhalf : (find cs n).half k with
  | working c =>
    have hy : y =
        { state := put cs ((find cs n).setHalf k (.working (Batch.plan now t r c).state))
          first := (Batch.plan now t r c).first.map (lift n k)
          later := (Batch.plan now t r c).later.map (lift n k) ++
            if (Batch.plan now t r c).state.finished then [⟨.tally n k, .done ()⟩] else [] } := by
      simp only [y, Cycle.react, hhalf]
    refine h.turnOn ?_ ?_ ?_
    · rw [hhalf, hy]
      exact moves_put h.shaped h.mem
    · rw [hhalf, hy]
      exact map_lift _ _ _
    · rw [hhalf, hy]
      simp only [Half.plan, List.map_append, map_lift]
      split <;> rfl
  | fetching | ended =>
    have hy : y = { state := cs } := by simp only [y, Cycle.react, hhalf]
    have hsame : (Half.plan w k now (.work t) r ((find cs n).half k)).state =
        (find cs n).half k := by
      rw [hhalf]
      rfl
    refine h.turnOn ?_ ?_ ?_
    · rw [hy, hsame]
      exact moves_refl h.shaped
    · rw [hhalf, hy]
      rfl
    · rw [hhalf, hy]
      rfl

theorem Sound.half_aside {now : Instant} {t : Tag} {r : t.Result}
    {follows : Multiset (Strand Tag.Result)} (h : Sound w b e log cs (⟨t, .done r⟩ ::ₘ xs))
    (hstrand : ∀ m j, half? m j ⟨t, .done r⟩ = none)
    (hending : ∀ m j, halfEnding? m j ⟨now, t, r, follows⟩ = none) :
    ∀ m ∈ b, ∀ j, Half.Course w j (logOf m j (⟨now, t, r, follows⟩ :: log)) ((find cs m).half j)
      (strandsOf m j xs) := by
  intro m hm j
  have hcourse := h.half m hm j
  rw [strandsOf, Multiset.filterMap_cons_none _ _ (hstrand m j)] at hcourse
  rw [logOf, List.filterMap_cons_none (hending m j)]
  exact hcourse

/-- A cycle settles: its outcome is that of the half, where it is not known yet. -/
theorem Sound.settled {n : Nat} {k : Coordinator.Kind} {now : Instant} {r : Unit}
    (h : Sound w b e log cs (⟨.settle n k, .done r⟩ ::ₘ xs)) :
    let y := (react w now (.settle n k) r cs).1
    Sound w b e (⟨now, .settle n k, r, y.strands⟩ :: log) y.state (y.strands + xs) := by
  intro y
  have hn : n ∈ b := h.known _ (Multiset.mem_cons_self _ _)
  have hover : (find cs n).Over := h.settle n k (by simp)
  have hknown : ∀ x ∈ xs, x.tag.cycle ∈ b := fun x hx => h.known x (Multiset.mem_cons_of_mem hx)
  have hsettle (m : Nat) (j : Coordinator.Kind) (hm : .settle m j ∈ tags xs) : (find cs m).Over :=
    h.settle m j (by simp [hm])
  have htold (follows : Multiset (Strand Tag.Result)) :
      ∀ x ∈ (⟨now, .settle n k, r, follows⟩ :: log : List (Ending Tag.Result)),
        x.tag.cycle ∈ b := by
    intro x hx
    obtain rfl | hx := List.mem_cons.1 hx
    · exact hn
    · exact h.told x hx
  -- the first half to settle decides the outcome, and only it leads to the end of the cycle
  cases houtcome : (find cs n).outcome with
  | some outcome =>
    have hy : y = { state := cs } := by simp only [y, Cycle.react, houtcome]
    have hstrands : y.strands = 0 := by rw [hy]; rfl
    rw [hstrands, hy, zero_add]
    exact { h with
      known := hknown
      told := htold 0
      half := h.half_aside (fun _ _ => rfl) fun _ _ => rfl
      settle := hsettle
      close := by simpa using h.close }
  | none =>
    obtain ⟨d, hd⟩ : ∃ d : Cycle,
        d = { find cs n with outcome := some ((find cs n).half k).outcome } :=
      ⟨_, rfl⟩
    have hnumber : d.number = n := by
      rw [hd]
      exact number_find cs n
    have hstate : y.state = put cs d := by
      rw [hd]
      simp only [y, Cycle.react, houtcome]
    have hstrands : y.strands = {⟨.close n, .done ()⟩} := by
      simp only [y, Cycle.react, houtcome]
      rfl
    have hmem : n ∈ Cycle.numbers cs := by
      rw [← Multiset.mem_coe, h.numbers]
      exact hn
    have hfind (m : Nat) : find y.state m = if m = n then d else find cs m := by
      rw [hstate, find_put cs d m (hnumber.symm ▸ hmem), hnumber]
    have hhalf (m : Nat) (j : Coordinator.Kind) : (find y.state m).half j = (find cs m).half j := by
      rw [hfind]
      split
      · next hm => rw [hm, hd]; rfl
      · rfl
    have hstill {m : Nat} (hm : (find cs m).Over) : (find y.state m).Over := by
      simpa only [Over, hhalf] using hm
    rw [hstrands]
    refine ⟨?_, h.nodup, fun m hm => ?_, fun x hx => ?_, htold _, fun m hm j => ?_,
      fun m j hm => ?_, fun m hm => ?_, fun m => ?_⟩
    · rw [hstate, numbers_put]
      exact h.numbers
    · rw [hstate, numbers_put] at hm
      rw [hfind]
      split
      · rw [hd]
        exact h.shaped n hmem
      · exact h.shaped m hm
    · obtain hx | hx := Multiset.mem_add.1 hx
      · rw [Multiset.mem_singleton.1 hx]
        exact hn
      · exact hknown x hx
    · have hnone : strandsOf m j {⟨.close n, .done ()⟩} = 0 := rfl
      rw [hhalf, strandsOf_add, hnone, zero_add]
      exact h.half_aside (fun _ _ => rfl) (fun _ _ => rfl) m hm j
    · exact hstill (hsettle m j (by simpa using hm))
    · rw [hfind] at hm
      split at hm
      · next heq => exact hstill (heq ▸ hover)
      · exact hstill (h.outcome m hm)
    · have hclose := h.close m
      rw [hfind]
      by_cases hm : m = n
      · subst hm
        have hone : Multiset.count (Tag.close m) {.close m} = 1 := Multiset.count_singleton_self _
        have hnone : (tags xs).count (.close m) + e.count m = 0 := by
          simpa only [houtcome, tags_cons,
            Multiset.count_cons_of_ne (show Tag.close m ≠ .settle m k by simp),
            Option.isSome_none, Bool.false_eq_true, if_false] using hclose
        rw [if_pos rfl, hd, tags_add, tags_singleton, Multiset.count_add, hone, add_assoc, hnone]
        rfl
      · have hne : Tag.close m ≠ .close n := by simpa using hm
        simpa [hm, Multiset.count_cons_of_ne hne] using hclose

/-- The end of a cycle is told. -/
theorem Sound.closed {n : Nat} {now : Instant} {r : Unit}
    (h : Sound w b e log cs (⟨.close n, .done r⟩ ::ₘ xs)) :
    Sound w b (n ::ₘ e) (⟨now, .close n, r, 0⟩ :: log) cs xs := by
  refine { h with
    known := ?_
    told := ?_
    half := h.half_aside (fun _ _ => rfl) fun _ _ => rfl
    settle := ?_
    close := ?_ }
  · exact fun x hx => h.known x (Multiset.mem_cons_of_mem hx)
  · intro x hx
    obtain rfl | hx := List.mem_cons.1 hx
    · exact h.known ⟨.close n, .done r⟩ (Multiset.mem_cons_self _ _)
    · exact h.told x hx
  · exact fun m j hm => h.settle m j (by simp [hm])
  · intro m
    have hclose := h.close m
    simp only [tags_cons, Multiset.count_cons, Tag.close.injEq] at hclose ⊢
    omega

theorem react_signals (w : Worker) (now : Instant) {t : Tag} (r : t.Result) (cs : List Cycle)
    (ht : ∀ n, t ≠ .close n) : (react w now t r cs).2 = [] := by
  cases t with
  | fetch n k =>
    cases r with
    | error f => rfl
    | ok raws => cases raws <;> rfl
  | work n k t =>
    simp only [react]
    split <;> rfl
  | tally n k => rfl
  | conclude n k => rfl
  | settle n k =>
    simp only [react]
    split <;> rfl
  | close n => exact absurd rfl (ht n)

/-- A strand of the routine ends, whichever it is. -/
theorem Sound.react {now : Instant} {t : Tag} {r : t.Result}
    (h : Sound w b e log cs (⟨t, .done r⟩ ::ₘ xs)) :
    let y := Cycle.react w now t r cs
    Sound w b ((y.2.filterMap Signal.cycle? : List Nat) + e)
      (⟨now, t, r, y.1.strands⟩ :: log) y.1.state (y.1.strands + xs) := by
  intro y
  by_cases ht : ∀ n, t ≠ .close n
  · have hnone : (y.2.filterMap Signal.cycle? : Multiset Nat) + e = e := by
      simp only [y, react_signals w now r cs ht, List.filterMap_nil, Multiset.coe_nil, zero_add]
    rw [hnone]
    cases t with
    | fetch n k => exact Sound.fetched h
    | work n k t => exact Sound.worked h
    | tally n k =>
      have hlift : Sound w b e log cs (liftHalf n k ⟨.tally, .done r⟩ ::ₘ xs) := h
      exact hlift.turnOn (moves_refl h.shaped) rfl rfl
    | conclude n k =>
      have hlift : Sound w b e log cs (liftHalf n k ⟨.conclude, .done r⟩ ::ₘ xs) := h
      exact hlift.turnEnd rfl
    | settle n k => exact h.settled
    | close n => exact absurd rfl (ht n)
  · obtain ⟨n, rfl⟩ : ∃ n, t = .close n := by simpa using ht
    have hy : y.1.strands = 0 := rfl
    rw [hy, zero_add]
    exact h.closed

theorem sound (h : (routine w).Runs [] b e log cs xs) : Sound w b e log cs xs := by
  induction h with
  | start => exact sound_nil w
  | begin n _ hn ih => exact ih.begin hn
  | wait _ hy ih => exact ih.wait hy
  | turn now _ ih => exact ih.react

theorem Sound.le (h : Sound w b e log cs xs) : e ≤ b := by
  rw [Multiset.le_iff_count]
  intro n
  have hclose := h.close n
  by_cases hn : n ∈ Cycle.numbers cs
  · have hb : n ∈ b := by
      rw [← h.numbers]
      exact hn
    have hcount := Multiset.count_pos.2 hb
    split at hclose <;> omega
  · have hnone : (find cs n).outcome = none := by rw [find_of_not_mem hn]
    rw [hnone, Option.isSome_none, if_neg Bool.false_ne_true] at hclose
    omega

theorem routine_honest (w : Worker) : (routine w).Honest [] :=
  fun _ _ _ _ _ h => (sound h).le

theorem Sound.over {n : Nat} (h : Sound w b e log cs xs) (hn : n ∈ e) : (find cs n).Over := by
  have hclose := h.close n
  have hcount := Multiset.count_pos.2 hn
  refine h.outcome n ?_
  by_contra hnone
  rw [if_neg hnone] at hclose
  omega

/-- When the end of a cycle is told, nothing of a half is left, unless the fetch of the other half
has failed. -/
theorem Sound.settles {n : Nat} {k : Coordinator.Kind} (h : Sound w b e log cs xs) (hn : n ∈ e)
    (hother : ∀ j ≠ k, ∀ f, Half.fetchedIn (logOf n j log) ≠ [.error f]) :
    Half.Settled w k (logOf n k log) (strandsOf n k xs) := by
  have hb : n ∈ b := Multiset.mem_of_le h.le hn
  have hended : ((find cs n).half k).hasEnded = true := by
    obtain ⟨j, f, hfailed⟩ | hall := h.over hn
    · by_cases hj : j = k
      · rw [← hj, hfailed]
        rfl
      · exact absurd (hfailed ▸ h.half n hb j).failure (hother j hj f)
    · exact hall k
  have hcourse := h.half n hb k
  cases hhalf : (find cs n).half k with
  | ended result =>
    rw [hhalf] at hcourse
    exact hcourse.settled
  | fetching | working =>
    rw [hhalf] at hended
    cases hended

end TestWorker.Cycle
