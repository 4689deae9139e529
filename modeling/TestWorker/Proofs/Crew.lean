import Mathlib.Data.Multiset.Filter
import Mathlib.Logic.Hydra
import TestWorker.Crew

namespace TestWorker

namespace Activity
variable {σ α : Type}

/-- What is left of an activity after one reply or more, whatever they were. -/
inductive Later : Activity α → Activity α → Prop
  | next {e : Effect} {next : e.Reply → Activity α} (r : e.Reply) : Later (next r) (.ask e next)
  | more {e : Effect} {next : e.Reply → Activity α} {a : Activity α} (r : e.Reply) :
    Later a (next r) → Later a (.ask e next)

theorem later_wellFounded : WellFounded (Later (α := α)) := by
  refine ⟨fun a => ?_⟩
  induction a with
  | done result => exact ⟨_, fun b hb => nomatch hb⟩
  | ask e next ih =>
    refine ⟨_, fun b hb => ?_⟩
    cases hb with
    | next r => exact ih r
    | more r hb => exact (ih r).inv hb

theorem later_of_waiting {o : Outside σ} {a rest : Activity α}
    {now : Instant} {s w : σ} {delay : Nat} (h : a.advance o now s = (.waiting delay rest, w)) :
    Later rest a := by
  induction a generalizing s with
  | done result => simp [advance] at h
  | ask e next ih =>
    simp only [advance] at h
    split at h
    · exact .more _ (ih _ h)
    · obtain ⟨⟨-, rfl⟩, -⟩ : (_ ∧ _) ∧ _ := by simpa using h
      exact .next _

theorem later_of_ended {o : Outside σ} {a : Activity α} {now : Instant} {s w : σ} {r : α}
    (h : a.advance o now s = (.ended r, w)) : a = .done r ∨ Later (.done r) a := by
  induction a generalizing s with
  | done result =>
    obtain ⟨rfl, -⟩ : _ ∧ _ := by simpa [advance] using h
    exact .inl rfl
  | ask e next ih =>
    right
    simp only [advance] at h
    split at h
    · obtain hr | hr := ih _ h
      · exact hr ▸ .next _
      · exact .more _ hr
    · simp at h

end Activity

variable {τ S σ : Type} {ρ : τ → Type}

@[simp] theorem filterMap_cons {α β : Type} (f : α → Option β) (a : α) (m : Multiset α) :
    (a ::ₘ m).filterMap f = ((f a).toList : Multiset β) + m.filterMap f := by
  cases h : f a with
  | none => simp [Multiset.filterMap_cons_none _ _ h]
  | some b => simp [Multiset.filterMap_cons_some _ _ _ h]

@[simp] theorem filterMap_singleton {α β : Type} (f : α → Option β) (a : α) :
    ({a} : Multiset α).filterMap f = ((f a).toList : Multiset β) := by
  rw [← Multiset.cons_zero, filterMap_cons, Multiset.filterMap_zero, add_zero]

theorem filterMap_eq_zero {α β : Type} {f : α → Option β} {m : Multiset α} :
    m.filterMap f = 0 ↔ ∀ a ∈ m, f a = none := by
  induction m using Quotient.inductionOn with
  | _ l => simp [List.filterMap_eq_nil_iff]

theorem coe_filterMap_cons {α β : Type} (f : α → Option β) (a : α) (l : List α) :
    ((a :: l).filterMap f : Multiset β) =
      ((f a).toList : Multiset β) + (l.filterMap f : Multiset β) := by
  cases h : f a with
  | none => simp [h]
  | some b => simp [h, ← Multiset.cons_coe]

def Reaction.strands (x : Reaction ρ S) : Multiset (Strand ρ) := x.first + x.later

theorem Reaction.mem_strands {x : Reaction ρ S} {y : Strand ρ} :
    y ∈ x.strands ↔ y ∈ x.first ∨ y ∈ x.later := by
  rw [Reaction.strands, Multiset.coe_add, Multiset.mem_coe, List.mem_append]

/-- The end of a strand, and the strands that it led to. -/
structure Ending (ρ : τ → Type) where
  time : Instant
  tag : τ
  result : ρ tag
  follows : Multiset (Strand ρ)

/-- Runs from a state and some strands: the ends of strands, the latest first, the state and the
strands that are left. -/
inductive Runs (p : Plan ρ S) (s₀ : S) (xs₀ : Multiset (Strand ρ)) :
    List (Ending ρ) → S → Multiset (Strand ρ) → Prop
  | start : Runs p s₀ xs₀ [] s₀ xs₀
  | wait {log s t a b xs} : Runs p s₀ xs₀ log s (⟨t, a⟩ ::ₘ xs) → Activity.Later b a →
    Runs p s₀ xs₀ log s (⟨t, b⟩ ::ₘ xs)
  | turn (now : Instant) {log s t r xs} : Runs p s₀ xs₀ log s (⟨t, .done r⟩ ::ₘ xs) →
    Runs p s₀ xs₀ (⟨now, t, r, (p now t r s).strands⟩ :: log) (p now t r s).state
      ((p now t r s).strands + xs)

def tags (xs : Multiset (Strand ρ)) : Multiset τ := xs.map (·.tag)

@[simp] theorem tags_zero : tags (0 : Multiset (Strand ρ)) = 0 := rfl

@[simp] theorem tags_cons (x : Strand ρ) (xs : Multiset (Strand ρ)) :
    tags (x ::ₘ xs) = x.tag ::ₘ tags xs :=
  Multiset.map_cons _ _ _

@[simp] theorem tags_singleton (x : Strand ρ) : tags {x} = {x.tag} := rfl

@[simp] theorem tags_add (xs ys : Multiset (Strand ρ)) : tags (xs + ys) = tags xs + tags ys :=
  Multiset.map_add _ _ _

@[simp] theorem tags_coe (xs : List (Strand ρ)) :
    tags (xs : Multiset (Strand ρ)) = xs.map (·.tag) :=
  Multiset.map_coe _ _

def Reaction.tags (x : Reaction ρ S) : Multiset τ := TestWorker.tags x.strands

def Ending.tags (x : Ending ρ) : Multiset τ := TestWorker.tags x.follows

namespace Runs

variable {p : Plan ρ S} {s₀ s : S} {xs₀ xs : Multiset (Strand ρ)} {log : List (Ending ρ)}

theorem invariant {P : List (Ending ρ) → S → Multiset τ → Prop} (h₀ : P [] s₀ (tags xs₀))
    (hturn : ∀ {log s now t} {r : ρ t} {ts : Multiset τ}, P log s (t ::ₘ ts) →
      P (⟨now, t, r, (p now t r s).strands⟩ :: log) (p now t r s).state
        ((p now t r s).tags + ts))
    (h : Runs p s₀ xs₀ log s xs) : P log s (tags xs) := by
  induction h with
  | start => exact h₀
  | wait _ _ ih => simpa using ih
  | turn now _ ih =>
    rw [tags_cons] at ih
    rw [tags_add]
    exact hturn ih

theorem trans {s' : S} {xs' : Multiset (Strand ρ)} {later : List (Ending ρ)}
    (h : Runs p s₀ xs₀ log s xs) (h' : Runs p s xs later s' xs') :
    Runs p s₀ xs₀ (later ++ log) s' xs' := by
  induction h' with
  | start => exact h
  | wait _ hb ih => exact .wait ih hb
  | turn now _ ih => exact .turn now ih

end Runs

namespace Crew

def strands (c : Crew ρ S σ) : Multiset (Strand ρ) :=
  (c.ready : Multiset (Strand ρ)) + (c.alarms.map (·.strand) : List (Strand ρ))

theorem schedule_perm (a : Alarm ρ) (as : List (Alarm ρ)) : (schedule a as).Perm (a :: as) := by
  induction as with
  | nil => exact .refl _
  | cons b bs ih =>
    simp only [schedule]
    split
    · exact .refl _
    · exact (ih.cons b).trans (.swap a b bs)

theorem strands_wake (c : Crew ρ S σ) (h : c.ready = []) : c.wake.strands = c.strands := by
  unfold wake
  split
  · rfl
  · next a as hc =>
    have hs : (c.alarms.takeWhile (·.due ≤ a.due)).map (·.strand) ++
        (c.alarms.dropWhile (·.due ≤ a.due)).map (·.strand) = c.alarms.map (·.strand) := by
      rw [← List.map_append, List.takeWhile_append_dropWhile]
    simp only [strands, h, Multiset.coe_add, hs, List.nil_append]

@[simp] theorem state_wake (c : Crew ρ S σ) : c.wake.state = c.state := by
  unfold wake
  split <;> rfl

/-- What one move of a crew does: the clock goes on to the first alarm, a strand waits, or a strand
ends. -/
theorem turn_cases {p : Plan ρ S} {o : Outside σ} {c d : Crew ρ S σ} (h : c.turn p o = some d) :
    (c.ready = [] ∧ c.alarms ≠ [] ∧ d = c.wake) ∨
    (∃ t a b xs, c.strands = ⟨t, a⟩ ::ₘ xs ∧ Activity.Later b a ∧ d.state = c.state ∧
      d.strands = ⟨t, b⟩ ::ₘ xs) ∨
    (∃ t a r xs, c.strands = ⟨t, a⟩ ::ₘ xs ∧ (a = .done r ∨ Activity.Later (.done r) a) ∧
      d.state = (p c.now t r c.state).state ∧ d.strands = (p c.now t r c.state).strands + xs) := by
  unfold turn at h
  split at h
  · next hready =>
    split at h
    · cases h
    · next halarms =>
      left
      exact ⟨hready, by simpa using halarms, by simpa using h.symm⟩
  · next s ready hready =>
    right
    have hs : c.strands = s ::ₘ ((ready : Multiset (Strand ρ)) +
        (c.alarms.map (·.strand) : List (Strand ρ)) : Multiset (Strand ρ)) := by
      simp [strands, hready, ← Multiset.cons_coe]
    split at h
    · next delay rest w hadvance =>
      left
      refine ⟨s.tag, s.rest, rest, _, hs, Activity.later_of_waiting hadvance, ?_, ?_⟩
      · cases h; rfl
      · cases h
        have hp := (schedule_perm ⟨c.now + delay, s.tag, rest⟩ c.alarms).map (·.strand)
        simp [strands, Multiset.coe_eq_coe.2 hp, ← Multiset.cons_coe, -Multiset.coe_add]
    · next r w hadvance =>
      right
      refine ⟨s.tag, s.rest, r, _, hs, Activity.later_of_ended hadvance, ?_, ?_⟩
      · cases h; rfl
      · cases h
        simp only [strands, Reaction.strands, ← Multiset.coe_add]
        ac_rfl

theorem turn_eq_none {p : Plan ρ S} {o : Outside σ} {c : Crew ρ S σ} (h : c.turn p o = none) :
    c.strands = 0 := by
  unfold turn at h
  split at h
  · next hready =>
    split at h
    · next halarms => simp_all [strands]
    · cases h
  · split at h <;> cases h

variable {p : Plan ρ S} {o : Outside σ} {s₀ : S} {xs₀ : Multiset (Strand ρ)}

theorem runs_turn {log : List (Ending ρ)} {c d : Crew ρ S σ}
    (hc : Runs p s₀ xs₀ log c.state c.strands) (h : c.turn p o = some d) :
    ∃ log', Runs p s₀ xs₀ log' d.state d.strands := by
  obtain ⟨hready, -, rfl⟩ | ⟨t, a, b, xs, hs, hb, hstate, hd⟩ | ⟨t, a, r, xs, hs, ha, hstate, hd⟩ :=
    turn_cases h
  · refine ⟨log, ?_⟩
    rw [strands_wake c hready, state_wake]
    exact hc
  · refine ⟨log, ?_⟩
    rw [hstate, hd]
    exact .wait (hs ▸ hc) hb
  · rw [hstate, hd]
    have hdone : Runs p s₀ xs₀ log c.state (⟨t, .done r⟩ ::ₘ xs) := by
      obtain rfl | ha := ha
      · exact hs ▸ hc
      · exact .wait (hs ▸ hc) ha
    exact ⟨_, .turn c.now hdone⟩

theorem runs_runUntil {log : List (Ending ρ)} {c : Crew ρ S σ}
    (enough : S → Bool) (fuel : Nat) (hc : Runs p s₀ xs₀ log c.state c.strands) :
    ∃ log', Runs p s₀ xs₀ log' (runUntil p o enough fuel c).state
      (runUntil p o enough fuel c).strands := by
  induction fuel generalizing log c with
  | zero => exact ⟨log, hc⟩
  | succ n ih =>
    simp only [runUntil]
    split
    · exact ⟨log, hc⟩
    · split
      · next d hd =>
        obtain ⟨log', hlog⟩ := runs_turn hc hd
        exact ih hlog
      · exact ⟨log, hc⟩

/-- One strand comes after another: it has a lower rank, or it is what is left of it after
replies. -/
inductive Sooner (rank : τ → Nat) : Strand ρ → Strand ρ → Prop
  | lower {x y : Strand ρ} : rank x.tag < rank y.tag → Sooner rank x y
  | later {t : τ} {a b : Activity (ρ t)} : Activity.Later b a → Sooner rank ⟨t, b⟩ ⟨t, a⟩

theorem sooner_wellFounded (rank : τ → Nat) : WellFounded (Sooner (ρ := ρ) rank) := by
  have hacc : ∀ n t (a : Activity (ρ t)), rank t = n → Acc (Sooner rank) (⟨t, a⟩ : Strand ρ) := by
    -- by rank, and within a rank by what is left of the activity
    intro n
    induction n using Nat.strongRecOn with
    | _ n ihn =>
      intro t a
      induction a using Activity.later_wellFounded.induction with
      | _ a iha =>
        intro hn
        refine ⟨_, fun y hy => ?_⟩
        cases hy with
        | lower hlt => exact ihn _ (hn ▸ hlt) _ _ rfl
        | later hb => exact iha _ hb hn
  exact ⟨fun x => hacc _ x.tag x.rest rfl⟩

/-- Crews get smaller in their strands, or a move of the clock readies one. -/
def size (c : Crew ρ S σ) : Multiset (Strand ρ) × Nat :=
  (c.strands, if c.ready.isEmpty then 1 else 0)

def Smaller (rank : τ → Nat) (d c : Crew ρ S σ) : Prop :=
  Prod.Lex (Relation.CutExpand (Sooner rank)) (· < ·) d.size c.size

theorem smaller_wellFounded (rank : τ → Nat) :
    WellFounded (Smaller (ρ := ρ) (S := S) (σ := σ) rank) :=
  InvImage.wf size ((sooner_wellFounded rank).cutExpand.prod_lex Nat.lt_wfRel.wf)

theorem smaller_wake (rank : τ → Nat) (c : Crew ρ S σ) (hready : c.ready = [])
    (halarms : c.alarms ≠ []) :
    Smaller rank c.wake c := by
  have hwake : c.wake.ready ≠ [] := by
    obtain ⟨a, as, h⟩ := List.exists_cons_of_ne_nil halarms
    simp [wake, h]
  simp only [Smaller, size, strands_wake c hready, hready]
  refine .right _ ?_
  simp [hwake]

/-- Every reaction in a state with the property keeps it, and leads to strands of lower ranks
only. -/
def Descends (p : Plan ρ S) (rank : τ → Nat) (I : S → Prop) : Prop :=
  ∀ now t (r : ρ t) s, I s → I (p now t r s).state ∧
    ∀ x ∈ (p now t r s).strands, rank x.tag < rank t

theorem cutExpand_wait {rank : τ → Nat} {t : τ} {a b : Activity (ρ t)} (hb : Activity.Later b a)
    (xs : Multiset (Strand ρ)) :
    Relation.CutExpand (Sooner rank) (⟨t, b⟩ ::ₘ xs) (⟨t, a⟩ ::ₘ xs) := by
  refine ⟨{⟨t, b⟩}, ⟨t, a⟩, by simpa using Sooner.later hb, ?_⟩
  simp only [← Multiset.singleton_add]
  ac_rfl

theorem turn_smaller (rank : τ → Nat) {c d : Crew ρ S σ} (h : c.turn p o = some d) :
    (d.state = c.state ∧ Smaller rank d c) ∨
    ∃ t r, d.state = (p c.now t r c.state).state ∧
      ((∀ x ∈ (p c.now t r c.state).strands, rank x.tag < rank t) → Smaller rank d c) := by
  obtain ⟨hready, halarms, rfl⟩ | ⟨t, a, b, xs, hs, hb, hstate, hd⟩ |
      ⟨t, a, r, xs, hs, -, hstate, hd⟩ := turn_cases h
  · exact .inl ⟨state_wake c, smaller_wake rank c hready halarms⟩
  · refine .inl ⟨hstate, .left _ _ ?_⟩
    rw [hs, hd]
    exact cutExpand_wait hb xs
  · refine .inr ⟨t, r, hstate, fun hlower => .left _ _ ?_⟩
    rw [hs, hd]
    exact ⟨(p c.now t r c.state).strands, ⟨t, a⟩,
      fun x hx => .lower (hlower x (by simpa using hx)),
      by simp only [← Multiset.singleton_add]; ac_rfl⟩

theorem smaller_turn {rank : τ → Nat} {I : S → Prop} (hp : Descends p rank I) {c d : Crew ρ S σ}
    (hI : I c.state) (h : c.turn p o = some d) : I d.state ∧ Smaller rank d c := by
  obtain ⟨hstate, hsmaller⟩ | ⟨t, r, hstate, hsmaller⟩ := turn_smaller rank h
  · exact ⟨hstate ▸ hI, hsmaller⟩
  · obtain ⟨hI', hlower⟩ := hp c.now t r c.state hI
    exact ⟨hstate ▸ hI', hsmaller hlower⟩

/-- A crew that gets lower with every move, in some order, comes to its end or to a state that is
enough; what every move keeps holds then. -/
theorem exists_end_of_wellFounded {R : Crew ρ S σ → Crew ρ S σ → Prop}
    (hR : WellFounded R) {I : Crew ρ S σ → Prop} (enough : S → Bool)
    (hturn : ∀ c d, I c → enough c.state = false → c.turn p o = some d → I d ∧ R d c)
    (c : Crew ρ S σ) (hI : I c) :
    ∃ n, ∀ fuel, n ≤ fuel → I (runUntil p o enough fuel c) ∧
      (enough (runUntil p o enough fuel c).state = true ∨
        (runUntil p o enough fuel c).strands = 0) := by
  -- fuel cannot carry this: how much is needed is only known from the crew that the turn leads to
  induction c using hR.induction with
  | _ c ih =>
    have hstays (hrest : ∀ fuel, runUntil p o enough fuel c = c)
        (hend : enough c.state = true ∨ c.strands = 0) : ∃ n, ∀ fuel, n ≤ fuel →
        I (runUntil p o enough fuel c) ∧ (enough (runUntil p o enough fuel c).state = true ∨
          (runUntil p o enough fuel c).strands = 0) := by
      refine ⟨0, fun fuel _ => ?_⟩
      rw [hrest]
      exact ⟨hI, hend⟩
    cases henough : enough c.state with
    | true =>
      refine hstays (fun fuel => ?_) (.inl henough)
      cases fuel <;> simp [runUntil, henough]
    | false =>
      cases hnext : c.turn p o with
      | none =>
        refine hstays (fun fuel => ?_) (.inr (turn_eq_none hnext))
        cases fuel <;> simp [runUntil, hnext]
      | some d =>
        obtain ⟨hId, hd⟩ := hturn c d hI henough hnext
        obtain ⟨n, hn⟩ := ih d hd hId
        refine ⟨n + 1, fun fuel hfuel => ?_⟩
        obtain ⟨m, rfl⟩ : ∃ m, fuel = m + 1 := ⟨fuel - 1, by omega⟩
        simpa [runUntil, henough, hnext] using hn m (by omega)

theorem exists_end {rank : τ → Nat} {I : S → Prop} (hp : Descends p rank I)
    (enough : S → Bool) (c : Crew ρ S σ) (hI : I c.state) :
    ∃ n, ∀ fuel, n ≤ fuel →
      enough (runUntil p o enough fuel c).state = true ∨
        (runUntil p o enough fuel c).strands = 0 := by
  obtain ⟨n, hn⟩ := exists_end_of_wellFounded (I := fun c => I c.state)
    (smaller_wellFounded rank) enough (fun _ _ hI _ h => smaller_turn (o := o) hp hI h) c hI
  exact ⟨n, fun fuel hfuel => (hn fuel hfuel).2⟩

theorem turn_tags {c d : Crew ρ S σ} (h : c.turn p o = some d) :
    (d.state = c.state ∧ tags d.strands = tags c.strands ∧ Smaller (fun _ => 0) d c) ∨
    ∃ t r ts, tags c.strands = t ::ₘ ts ∧ d.state = (p c.now t r c.state).state ∧
      tags d.strands = (p c.now t r c.state).tags + ts := by
  obtain ⟨hready, halarms, rfl⟩ | ⟨t, a, b, xs, hs, hb, hstate, hd⟩ |
      ⟨t, a, r, xs, hs, -, hstate, hd⟩ := turn_cases h
  · exact .inl ⟨state_wake c, by rw [strands_wake c hready], smaller_wake _ c hready halarms⟩
  · refine .inl ⟨hstate, by rw [hs, hd, tags_cons, tags_cons], .left _ _ ?_⟩
    rw [hs, hd]
    exact cutExpand_wait hb xs
  · exact .inr ⟨t, r, tags xs, by rw [hs, tags_cons], hstate, by rw [hd, tags_add]; rfl⟩

/-- A crew comes to its end where each end of a strand lowers a number. -/
theorem exists_end_of_lowers {μ : S → Multiset τ → Nat} {I : Crew ρ S σ → Prop}
    (enough : S → Bool) (hI : ∀ c d, I c → enough c.state = false → c.turn p o = some d → I d)
    (hμ : ∀ c t (r : ρ t) ts, I c → enough c.state = false → tags c.strands = t ::ₘ ts →
      μ (p c.now t r c.state).state ((p c.now t r c.state).tags + ts) < μ c.state (t ::ₘ ts))
    (c : Crew ρ S σ) (hc : I c) :
    ∃ n, ∀ fuel, n ≤ fuel → I (runUntil p o enough fuel c) ∧
      (enough (runUntil p o enough fuel c).state = true ∨
        (runUntil p o enough fuel c).strands = 0) := by
  -- the strands count only where the number stays, so that no tag needs a rank
  have hwf : WellFounded fun d c : Crew ρ S σ => Prod.Lex (· < ·) (Smaller fun _ => 0)
      (μ d.state (tags d.strands), d) (μ c.state (tags c.strands), c) :=
    InvImage.wf (fun c : Crew ρ S σ => (μ c.state (tags c.strands), c))
      (Nat.lt_wfRel.wf.prod_lex (smaller_wellFounded fun _ => 0))
  refine exists_end_of_wellFounded hwf enough
    (fun c d hc henough h => ⟨hI c d hc henough h, ?_⟩) c hc
  obtain ⟨hstate, htags, hsmaller⟩ | ⟨t, r, ts, htags, hstate, hd⟩ := turn_tags h
  · rw [hstate, htags]
    exact .right _ hsmaller
  · rw [hstate, hd, htags]
    exact .left _ _ (hμ c t r ts hc henough htags)

end Crew
end TestWorker
