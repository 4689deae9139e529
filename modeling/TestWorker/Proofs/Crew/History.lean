import TestWorker.Proofs.Activity
import TestWorker.Proofs.Crew.Timing

namespace TestWorker

/-- One effect of a strand, and how long its reply took. -/
structure Beat extends Moment where
  delay : Nat

/-- A clock tells the time, and a pause takes as long as it says. -/
def Beat.Timely : Beat → Prop
  | ⟨⟨now, .clock, r⟩, d⟩ => r = now ∧ d = 0
  | ⟨⟨_, .pause p, _⟩, d⟩ => d = p
  | _ => True

def Beat.From {σ : Type} (o : Outside σ) (b : Beat) : Prop :=
  ∃ s, b.reply = (o.reply b.effect b.instant s).value ∧
    b.delay = (o.reply b.effect b.instant s).delay

/-- What is left of an activity where it waits or is done, and how long it waits. -/
def Stage.left {α : Type} : Stage α → Nat × Activity α
  | .ended r => (0, .done r)
  | .waiting delay rest => (delay, rest)

namespace Activity
variable {σ α β : Type}

/-- What is left of an activity after some replies, and when. -/
inductive Goes : Instant → Activity α → List Beat → Instant → Activity α → Prop
  | stay (now : Instant) (a : Activity α) : Goes now a [] now a
  | reply {now later : Instant} {e : Effect} {next : e.Reply → Activity α} {r : e.Reply} {d : Nat}
    {beats : List Beat} {b : Activity α} : Beat.Timely ⟨⟨now, e, r⟩, d⟩ →
    Goes (now + d) (next r) beats later b →
      Goes now (.ask e next) (⟨⟨now, e, r⟩, d⟩ :: beats) later b

namespace Goes
variable {now mid later : Instant} {a b c : Activity α} {bs cs : List Beat}

theorem trans (h : Goes now a bs mid b) (h' : Goes mid b cs later c) :
    Goes now a (bs ++ cs) later c := by
  induction h with
  | stay => exact h'
  | reply htimely _ ih => exact .reply htimely (ih h')

theorem of_done {r : α} (h : Goes now (.done r) bs later b) :
    bs = [] ∧ later = now ∧ b = .done r := by
  cases h
  exact ⟨rfl, rfl, rfl⟩

theorem eq_or_later (h : Goes now a bs later b) : b = a ∨ Later b a := by
  induction h with
  | stay => exact .inl rfl
  | @reply _ _ _ _ r _ _ _ _ _ ih =>
    right
    rcases ih with rfl | hb
    · exact .next r
    · exact .more r hb

theorem asks {Q : Effect → Prop} (h : Goes now a bs later b) (ha : a.Asks Q) :
    ∀ x ∈ bs, Q x.effect := by
  induction h with
  | stay => exact List.forall_mem_nil _
  | reply _ _ ih => exact List.forall_mem_cons.2 ⟨ha.1, ih (ha.2 _)⟩

end Goes

theorem goes_bind {a : Activity α} {f : α → Activity β} {now later : Instant}
    {beats : List Beat} {r : β} (h : Goes now (a >>= f) beats later (.done r)) :
    ∃ bs mid x cs, beats = bs ++ cs ∧ Goes now a bs mid (.done x) ∧
      Goes mid (f x) cs later (.done r) := by
  induction a generalizing now beats with
  | done x => exact ⟨[], now, x, beats, rfl, .stay _ _, h⟩
  | ask e next ih =>
    cases h with
    | reply htimely hrest =>
      obtain ⟨bs, mid, x, cs, rfl, hfirst, hsecond⟩ := ih _ hrest
      exact ⟨_ :: bs, mid, x, cs, rfl, .reply htimely hfirst, hsecond⟩

theorem timely_reply (o : Outside σ) (e : Effect) (now : Instant) (s : σ) :
    Beat.Timely ⟨⟨now, e, (o.reply e now s).value⟩, (o.reply e now s).delay⟩ := by
  cases e with
  | clock => exact ⟨rfl, rfl⟩
  | pause p => exact rfl
  | _ => trivial

/-- All replies that surroundings give. -/
def beats (o : Outside σ) : Activity α → Instant → σ → List Beat
  | done _, _, _ => []
  | ask e next, now, s =>
    let r := o.reply e now s
    ⟨⟨now, e, r.value⟩, r.delay⟩ :: (next r.value).beats o (now + r.delay) r.state

theorem goes_beats (o : Outside σ) (a : Activity α) (now : Instant) (s : σ) :
    a.Goes now (a.beats o now s) (a.run o now s).2.1 (.done (a.run o now s).1) := by
  induction a generalizing now s with
  | done r => exact .stay _ _
  | ask e next ih => exact .reply (timely_reply o e now s) (ih _ _ _)

/-- Up to the next wait, all replies come at once. -/
theorem goes_advance (o : Outside σ) (a : Activity α) (now : Instant) (s : σ) :
    ∃ beats, Goes now a beats (now + (a.advance o now s).1.left.1) (a.advance o now s).1.left.2 ∧
      ∀ b ∈ beats, b.From o := by
  induction a generalizing s with
  | done r => exact ⟨[], .stay _ _, List.forall_mem_nil _⟩
  | ask e next ih =>
    have htimely := timely_reply o e now s
    have hfrom : Beat.From o ⟨⟨now, e, (o.reply e now s).value⟩, (o.reply e now s).delay⟩ :=
      ⟨s, rfl, rfl⟩
    rw [advance]
    split
    · next hdelay =>
      rw [hdelay] at htimely hfrom
      obtain ⟨beats, h, hbeats⟩ := ih (o.reply e now s).value (o.reply e now s).state
      exact ⟨_, .reply htimely h, List.forall_mem_cons.2 ⟨hfrom, hbeats⟩⟩
    · exact ⟨_, .reply htimely (.stay _ _), List.forall_mem_singleton.2 hfrom⟩

end Activity

variable {τ S σ : Type} {ρ : τ → Type}

/-- A strand with all that it was replied since it began. -/
structure Story {τ : Type} (ρ : τ → Type) where
  tag : τ
  began : Instant
  origin : Activity (ρ tag)
  beats : List Beat
  now : Instant
  rest : Activity (ρ tag)
  goes : origin.Goes began beats now rest

namespace Story

def fresh (now : Instant) (x : Strand ρ) : Story ρ :=
  ⟨x.tag, now, x.rest, [], now, x.rest, .stay _ _⟩

def extend (x : Story ρ) {beats : List Beat} {now : Instant} {rest : Activity (ρ x.tag)}
    (h : x.rest.Goes x.now beats now rest) : Story ρ :=
  { x with beats := x.beats ++ beats, now, rest, goes := x.goes.trans h }

def strand (x : Story ρ) : Strand ρ := ⟨x.tag, x.rest⟩

def source (x : Story ρ) : Strand ρ := ⟨x.tag, x.origin⟩

def dated (x : Story ρ) : Instant × Strand ρ := (x.now, x.strand)

@[simp] theorem map_strand_fresh (now : Instant) (xs : Multiset (Strand ρ)) :
    (xs.map (fresh now)).map strand = xs := by
  rw [Multiset.map_map]
  exact Multiset.map_id xs

@[simp] theorem map_source_fresh (now : Instant) (xs : Multiset (Strand ρ)) :
    (xs.map (fresh now)).map source = xs := by
  rw [Multiset.map_map]
  exact Multiset.map_id xs

@[simp] theorem map_dated_fresh (now : Instant) (xs : Multiset (Strand ρ)) :
    (xs.map (fresh now)).map dated = xs.map (now, ·) := by
  rw [Multiset.map_map]
  rfl

end Story

/-- Runs as in `Runs`, of strands with their stories. Each end of a strand is kept with the strand's
story. -/
inductive Unfolds (p : Plan ρ S) (t₀ : Instant) (s₀ : S) (xs₀ : Multiset (Strand ρ)) :
    List (Ending ρ × Story ρ) → S → Multiset (Story ρ) → Prop
  | start : Unfolds p t₀ s₀ xs₀ [] s₀ (xs₀.map (Story.fresh t₀))
  | wait {log s} {x : Story ρ} {xs beats now} {rest : Activity (ρ x.tag)}
    (h : x.rest.Goes x.now beats now rest) :
    Unfolds p t₀ s₀ xs₀ log s (x ::ₘ xs) → Unfolds p t₀ s₀ xs₀ log s (x.extend h ::ₘ xs)
  | turn {log s} {x : Story ρ} {xs r} : Unfolds p t₀ s₀ xs₀ log s (x ::ₘ xs) → x.rest = .done r →
    Unfolds p t₀ s₀ xs₀ ((⟨x.now, x.tag, r, (p x.now x.tag r s).strands⟩, x) :: log)
      (p x.now x.tag r s).state ((p x.now x.tag r s).strands.map (Story.fresh x.now) + xs)

namespace Unfolds

variable {p : Plan ρ S} {t₀ : Instant} {s₀ s : S} {xs₀ : Multiset (Strand ρ)}
  {log : List (Ending ρ × Story ρ)} {xs : Multiset (Story ρ)}

/-- Without the stories it is one of the runs. -/
theorem runs (h : Unfolds p t₀ s₀ xs₀ log s xs) :
    Runs p s₀ xs₀ (log.map Prod.fst) s (xs.map Story.strand) := by
  induction h with
  | start =>
    rw [Story.map_strand_fresh]
    exact .start
  | @wait log s x xs beats now rest h _ ih =>
    have hstrand : (x.extend h).strand = ⟨x.tag, rest⟩ := rfl
    rw [Multiset.map_cons] at ih ⊢
    rw [hstrand]
    rcases h.eq_or_later with heq | hlater
    · rw [heq]
      exact ih
    · exact .wait ih hlater
  | @turn log s x xs r _ hdone ih =>
    have hx : x.strand = ⟨x.tag, .done r⟩ := by rw [Story.strand, hdone]
    rw [Multiset.map_cons, hx] at ih
    rw [Multiset.map_add, Story.map_strand_fresh]
    exact .turn x.now ih

theorem forall_fresh {P : Strand ρ → Prop} (now : Instant) {ys : Multiset (Strand ρ)}
    (h : ∀ y ∈ ys, P y) :
    ∀ x ∈ ys.map (Story.fresh now), P x.source := by
  intro x hx
  obtain ⟨y, hy, rfl⟩ := Multiset.mem_map.1 hx
  exact h y hy

/-- What holds of all strands that reactions lead to, in states that reactions keep, holds of every
strand as it began. -/
theorem forall_begun {I : S → Prop} {P : Strand ρ → Prop} (hs : I s₀) (h₀ : ∀ x ∈ xs₀, P x)
    (hp : ∀ now t (r : ρ t) s, I s → I (p now t r s).state ∧ ∀ x ∈ (p now t r s).strands, P x)
    (h : Unfolds p t₀ s₀ xs₀ log s xs) :
    I s ∧ (∀ e ∈ log, P e.2.source) ∧ ∀ x ∈ xs, P x.source := by
  induction h with
  | start => exact ⟨hs, List.forall_mem_nil _, forall_fresh _ h₀⟩
  | wait _ _ ih =>
    obtain ⟨hI, hlog, hxs⟩ := ih
    exact ⟨hI, hlog, Multiset.forall_mem_cons.2 (Multiset.forall_mem_cons.1 hxs)⟩
  | @turn log s x xs r _ _ ih =>
    obtain ⟨hI, hlog, hxs⟩ := ih
    obtain ⟨hx, hxs⟩ := Multiset.forall_mem_cons.1 hxs
    obtain ⟨hstate, hstrands⟩ := hp x.now x.tag r s hI
    refine ⟨hstate, List.forall_mem_cons.2 ⟨hx, hlog⟩, fun y hy => ?_⟩
    rcases Multiset.mem_add.1 hy with hy | hy
    · exact forall_fresh _ hstrands y hy
    · exact hxs y hy

theorem forall_source {P : Strand ρ → Prop} (h₀ : ∀ x ∈ xs₀, P x)
    (hp : ∀ now t (r : ρ t) s, ∀ x ∈ (p now t r s).strands, P x)
    (h : Unfolds p t₀ s₀ xs₀ log s xs) :
    ∀ x ∈ xs, P x.source :=
  (h.forall_begun (I := fun _ => True) trivial h₀ fun now t r s _ => ⟨trivial, hp now t r s⟩).2.2

/-- Every strand began at first, or where the end of another one led to it. -/
theorem sources (h : Unfolds p t₀ s₀ xs₀ log s xs) :
    (log.map fun e => e.2.source : Multiset (Strand ρ)) + xs.map Story.source =
      xs₀ + (log.map fun e => e.1.follows).sum := by
  induction h with
  | start =>
    rw [Story.map_source_fresh]
    simp
  | wait h _ ih =>
    rw [Multiset.map_cons] at ih ⊢
    exact ih
  | turn _ hdone ih =>
    rw [Multiset.map_cons] at ih
    rw [Multiset.map_add, Story.map_source_fresh, List.map_cons, List.map_cons, List.sum_cons,
      add_left_comm xs₀, ← ih, ← Multiset.cons_coe]
    simp only [← Multiset.singleton_add]
    ac_rfl

theorem endings (h : Unfolds p t₀ s₀ xs₀ log s xs) :
    ∀ e ∈ log, e.2.dated = (e.1.time, ⟨e.1.tag, .done e.1.result⟩) := by
  induction h with
  | start => exact nofun
  | wait _ _ ih => exact ih
  | turn _ hdone ih =>
    refine List.forall_mem_cons.2 ⟨?_, ih⟩
    rw [Story.dated, Story.strand, hdone]

theorem goes (h : Unfolds p t₀ s₀ xs₀ log s xs) {e : Ending ρ × Story ρ}
    (he : e ∈ log) {y : Strand ρ} (hy : e.2.source = y) :
    ∃ r, y.rest.Goes e.2.began e.2.beats e.2.now (.done r) := by
  subst hy
  induction h with
  | start => cases he
  | wait _ _ ih => exact ih he
  | @turn _ _ x _ r _ hdone ih =>
    rcases List.mem_cons.1 he with rfl | he
    · exact ⟨r, hdone ▸ x.goes⟩
    · exact ih he

theorem finish {t now : Instant} {x : Strand ρ} {beats : List Beat}
    {r : ρ x.tag} (h : Unfolds p t₀ s₀ xs₀ log s (Story.fresh t x ::ₘ xs))
    (hgoes : x.rest.Goes t beats now (.done r)) :
    ∃ e : Ending ρ × Story ρ, e.2.source = x ∧ e.2.beats = beats ∧
      Unfolds p t₀ s₀ xs₀ (e :: log) (p now x.tag r s).state
        ((p now x.tag r s).strands.map (Story.fresh now) + xs) :=
  ⟨_, rfl, List.nil_append beats, .turn (.wait (x := Story.fresh t x) hgoes h) rfl⟩

end Unfolds

namespace Crew

variable {p : Plan ρ S} {o : Outside σ} {t₀ : Instant} {s₀ : S} {xs₀ : Multiset (Strand ρ)}

/-- The crew is where a run has come to, and its strands are at the times that their stories
tell. -/
structure Unfolded (p : Plan ρ S) (t₀ : Instant) (s₀ : S) (xs₀ : Multiset (Strand ρ))
    (log : List (Ending ρ × Story ρ)) (xs : Multiset (Story ρ)) (c : Crew ρ S σ) : Prop where
  unfolds : Unfolds p t₀ s₀ xs₀ log c.state xs
  dated : xs.map Story.dated = c.dated
  timely : c.Timely

/-- The surroundings have given all replies so far. -/
structure Heard (o : Outside σ) (log : List (Ending ρ × Story ρ)) (xs : Multiset (Story ρ)) :
    Prop where
  ended : ∀ e ∈ log, ∀ b ∈ e.2.beats, b.From o
  left : ∀ x ∈ xs, ∀ b ∈ x.beats, b.From o

theorem Heard.wait {log : List (Ending ρ × Story ρ)} {x : Story ρ} {xs : Multiset (Story ρ)}
    {beats : List Beat} {now : Instant} {rest : Activity (ρ x.tag)} (h : Heard o log (x ::ₘ xs))
    (hgoes : x.rest.Goes x.now beats now rest) (hbeats : ∀ b ∈ beats, b.From o) :
    Heard o log (x.extend hgoes ::ₘ xs) := by
  obtain ⟨hx, hxs⟩ := Multiset.forall_mem_cons.1 h.left
  refine ⟨h.ended, Multiset.forall_mem_cons.2 ⟨fun b hb => ?_, hxs⟩⟩
  rcases List.mem_append.1 hb with hb | hb
  · exact hx b hb
  · exact hbeats b hb

theorem Heard.turn {log : List (Ending ρ × Story ρ)} {x : Story ρ} {xs : Multiset (Story ρ)}
    (h : Heard o log (x ::ₘ xs)) (e : Ending ρ) (now : Instant) (ys : Multiset (Strand ρ)) :
    Heard o ((e, x) :: log) (ys.map (Story.fresh now) + xs) := by
  obtain ⟨hx, hxs⟩ := Multiset.forall_mem_cons.1 h.left
  refine ⟨List.forall_mem_cons.2 ⟨hx, h.ended⟩, fun y hy => ?_⟩
  rcases Multiset.mem_add.1 hy with hy | hy
  · obtain ⟨z, -, rfl⟩ := Multiset.mem_map.1 hy
    exact List.forall_mem_nil _
  · exact hxs y hy

/-- A strand that is ready goes on as far as it comes without waiting. -/
theorem Unfolded.advance {log : List (Ending ρ × Story ρ)} {xs : Multiset (Story ρ)}
    {c : Crew ρ S σ} (hc : Unfolded p t₀ s₀ xs₀ log xs c) {x : Strand ρ}
    {ys : Multiset (Instant × Strand ρ)} (hx : c.dated = (c.now, x) ::ₘ ys)
    {stage : Stage (ρ x.tag)} {w : σ} (h : x.rest.advance o c.now c.surroundings = (stage, w)) :
    ∃ y zs, Unfolds p t₀ s₀ xs₀ log c.state (y ::ₘ zs) ∧
      y.dated = (c.now + stage.left.1, ⟨x.tag, stage.left.2⟩) ∧ zs.map Story.dated = ys ∧
      (Heard o log xs → Heard o log (y ::ₘ zs)) := by
  classical
  obtain ⟨y, hy, hyx, hys⟩ := (Multiset.map_eq_cons _ _ _ _).2 (hc.dated.trans hx)
  obtain ⟨hnow, rfl⟩ : y.now = c.now ∧ y.strand = x := by simpa [Story.dated] using hyx
  obtain ⟨beats, hgoes, hbeats⟩ := Activity.goes_advance o y.rest c.now c.surroundings
  have hstage : (y.rest.advance o c.now c.surroundings).1 = stage := congrArg Prod.fst h
  rw [hstage, ← hnow] at hgoes
  refine ⟨y.extend hgoes, xs.erase y, .wait hgoes ?_, ?_, hys, fun hheard => .wait ?_ hgoes hbeats⟩
  · rw [Multiset.cons_erase hy]
    exact hc.unfolds
  · rw [← hnow]
    rfl
  · rw [Multiset.cons_erase hy]
    exact hheard

theorem Unfolded.turn_heard {log : List (Ending ρ × Story ρ)} {xs : Multiset (Story ρ)}
    {c d : Crew ρ S σ} (hc : Unfolded p t₀ s₀ xs₀ log xs c) (h : c.turn p o = some d) :
    ∃ log' xs', Unfolded p t₀ s₀ xs₀ log' xs' d ∧ (Heard o log xs → Heard o log' xs') := by
  obtain ⟨htimely, hmoves⟩ := hc.timely.moves h
  cases hmoves with
  | clock _ _ heq hdated =>
    have hstate : d.state = c.state := by rw [heq, state_wake]
    exact ⟨log, xs, ⟨hstate ▸ hc.unfolds, hdated ▸ hc.dated, htimely⟩, id⟩
  | wait hadvance hbefore hafter _ hstate =>
    obtain ⟨y, zs, hunfolds, hy, hzs, hheard⟩ := hc.advance hbefore hadvance
    refine ⟨log, y ::ₘ zs, ⟨hstate ▸ hunfolds, ?_, htimely⟩, hheard⟩
    rw [Multiset.map_cons, hy, hzs, hafter]
    rfl
  | @ending x r w ys hadvance hbefore hafter _ hstate =>
    obtain ⟨y, zs, hunfolds, hy, hzs, hheard⟩ := hc.advance hbefore hadvance
    obtain ⟨tag, began, origin, beats, now, rest, hgoes⟩ := y
    obtain ⟨rfl, rfl, hdone⟩ : now = c.now ∧ tag = x.tag ∧ HEq rest (Activity.done r) := by
      simpa [Story.dated, Story.strand, Stage.left] using hy
    refine ⟨_, _, ⟨hstate ▸ hunfolds.turn (eq_of_heq hdone), ?_, htimely⟩, fun h =>
      (hheard h).turn _ _ _⟩
    rw [Multiset.map_add, Story.map_dated_fresh, hzs, hafter]

/-- As `Unfolded.runUntil`, with what the surroundings have replied. -/
theorem Unfolded.runUntil_heard {log : List (Ending ρ × Story ρ)} {xs : Multiset (Story ρ)}
    {c : Crew ρ S σ} (enough : S → Bool) (fuel : Nat) (hc : Unfolded p t₀ s₀ xs₀ log xs c) :
    ∃ log' xs', Unfolded p t₀ s₀ xs₀ log' xs' (runUntil p o enough fuel c) ∧
      (Heard o log xs → Heard o log' xs') := by
  induction fuel generalizing log xs c with
  | zero => exact ⟨log, xs, hc, id⟩
  | succ n ih =>
    simp only [Crew.runUntil]
    split
    · exact ⟨log, xs, hc, id⟩
    · split
      · next d hd =>
        obtain ⟨log₁, xs₁, hd₁, hheard₁⟩ := hc.turn_heard hd
        obtain ⟨log₂, xs₂, hd₂, hheard₂⟩ := ih hd₁
        exact ⟨log₂, xs₂, hd₂, fun h => hheard₂ (hheard₁ h)⟩
      · exact ⟨log, xs, hc, id⟩

theorem Unfolded.runUntil {log : List (Ending ρ × Story ρ)} {xs : Multiset (Story ρ)}
    {c : Crew ρ S σ} (enough : S → Bool) (fuel : Nat) (hc : Unfolded p t₀ s₀ xs₀ log xs c) :
    ∃ log' xs', Unfolded p t₀ s₀ xs₀ log' xs' (runUntil p o enough fuel c) := by
  obtain ⟨log', xs', hd, -⟩ := hc.runUntil_heard (o := o) enough fuel
  exact ⟨log', xs', hd⟩

theorem unfolded_start {c : Crew ρ S σ} (h : c.alarms = []) :
    Unfolded p c.now c.state c.strands [] (c.strands.map (Story.fresh c.now)) c := by
  refine ⟨.start, ?_, timely_of_no_alarms h⟩
  rw [Story.map_dated_fresh]
  simp [strands, Crew.dated, h]

end Crew
end TestWorker
