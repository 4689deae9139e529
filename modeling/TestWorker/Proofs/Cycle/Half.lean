import TestWorker.Cycle
import TestWorker.Proofs.Batch

namespace TestWorker.Half

inductive Tag where
  | fetch
  | work (t : Batch.Tag)
  | tally
  | conclude

def Tag.Result : Tag → Type
  | fetch => Except Fault (List Value)
  | work t => t.Result
  | _ => Unit

def lift (s : Strand Batch.Tag.Result) : Strand Tag.Result := ⟨.work s.tag, s.rest⟩

/-- A half alone, as it goes in a cycle. -/
def plan (w : Worker) (k : Coordinator.Kind) : Plan Tag.Result Half
  | _, .fetch, .error f, _ => { state := .ended (.error f) }
  | _, .fetch, .ok raws, _ =>
    if raws.isEmpty then { state := .ended (.ok 0) }
    else
      { state := .working (Cycle.batch w k raws)
        later := (Cycle.batch w k raws).opening.map lift }
  | now, .work t, result, .working b =>
    let x := Batch.plan now t result b
    { state := .working x.state
      first := x.first.map lift
      later := x.later.map lift ++ if x.state.finished then [⟨.tally, .done ()⟩] else [] }
  | _, .work _, _, h => { state := h }
  | _, .tally, _, h =>
    { state := h
      later := [⟨.conclude, Activity.print (w.console.batchExecuted k.plural h.count)⟩] }
  | _, .conclude, _, h => { state := .ended (.ok h.count) }

def work? : Strand Tag.Result → Option (Strand Batch.Tag.Result)
  | ⟨.work t, a⟩ => some ⟨t, a⟩
  | _ => none

def workEnding? : Ending Tag.Result → Option (Ending Batch.Tag.Result)
  | ⟨now, .work t, r, follows⟩ => some ⟨now, t, r, follows.filterMap work?⟩
  | _ => none

def fetched? : Ending Tag.Result → Option (Except Fault (List Value))
  | ⟨_, .fetch, r, _⟩ => some r
  | _ => none

def fetchedIn (log : List (Ending Tag.Result)) : List (Except Fault (List Value)) :=
  log.filterMap fetched?

def workIn (log : List (Ending Tag.Result)) : List (Ending Batch.Tag.Result) :=
  log.filterMap workEnding?

def BatchRuns (w : Worker) (k : Coordinator.Kind) (raws : List Value) :
    List (Ending Batch.Tag.Result) → Batch → Multiset (Strand Batch.Tag.Result) → Prop :=
  Runs Batch.plan (Cycle.batch w k raws) (Cycle.batch w k raws).opening

/-- The course of a half. -/
inductive Course (w : Worker) (k : Coordinator.Kind) :
    List (Ending Tag.Result) → Half → Multiset (Strand Tag.Result) → Prop
  | fetching (a : Activity (Except Fault (List Value))) : Course w k [] .fetching {⟨.fetch, a⟩}
  | working {log raws b ys} : fetchedIn log = [.ok raws] → BatchRuns w k raws (workIn log) b ys →
    b.finished = false → Course w k log (.working b) (ys.map lift)
  | finishing {log raws b t} {a : Activity (Tag.Result t)} : fetchedIn log = [.ok raws] →
    BatchRuns w k raws (workIn log) b 0 → b.finished = true → t = .tally ∨ t = .conclude →
    Course w k log (.working b) {⟨t, a⟩}
  | ended {log raws b} : fetchedIn log = [.ok raws] → BatchRuns w k raws (workIn log) b 0 →
    b.finished = true → Course w k log (.ended (.ok raws.length)) 0
  | failed {log f} : fetchedIn log = [.error f] → Course w k log (.ended (.error f)) 0

variable {w : Worker} {k : Coordinator.Kind} {log : List (Ending Tag.Result)} {h : Half}
  {xs : Multiset (Strand Tag.Result)}

theorem length_jobs {raws : List Value} {blog b ys} (hb : BatchRuns w k raws blog b ys) :
    b.jobs.length = raws.length := by
  rw [(Batch.sound hb).same, List.length_map]

theorem eq_cons_of_map {α β : Type} {f : α → β} {ys : Multiset α} {x : β} {xs : Multiset β}
    (h : ys.map f = x ::ₘ xs) : ∃ y ys', ys = y ::ₘ ys' ∧ f y = x ∧ ys'.map f = xs := by
  classical
  obtain ⟨y, hy, hx, hrest⟩ := (Multiset.map_eq_cons f ys xs x).2 h
  exact ⟨y, ys.erase y, (Multiset.cons_erase hy).symm, hx, hrest⟩

theorem Course.wait {t : Tag} {a b : Activity t.Result} (hc : Course w k log h (⟨t, a⟩ ::ₘ xs))
    (hb : Activity.Later b a) : Course w k log h (⟨t, b⟩ ::ₘ xs) := by
  generalize hx : (⟨t, a⟩ ::ₘ xs : Multiset (Strand Tag.Result)) = m at hc
  cases hc with
  | fetching a' =>
    obtain ⟨heq, rfl⟩ := Multiset.singleton_eq_cons_iff _ |>.1 hx.symm
    cases heq
    exact .fetching b
  | @working _ raws b' ys hfetched hruns hgoes =>
    obtain ⟨⟨t', a'⟩, ys', rfl, heq, rfl⟩ := eq_cons_of_map hx.symm
    change (⟨.work t', a'⟩ : Strand Tag.Result) = ⟨t, a⟩ at heq
    cases heq
    have hnext := Course.working hfetched (Runs.wait hruns hb) hgoes
    rwa [Multiset.map_cons] at hnext
  | finishing hfetched hruns hfinished ht =>
    obtain ⟨heq, rfl⟩ := Multiset.singleton_eq_cons_iff _ |>.1 hx.symm
    cases heq
    exact .finishing hfetched hruns hfinished ht
  | ended => exact absurd hx Multiset.cons_ne_zero
  | failed => exact absurd hx Multiset.cons_ne_zero

/-- The fetch ends: the half fails, ends with nothing to do, or sets to work. -/
theorem Course.fetched {now : Instant} {r : Except Fault (List Value)} :
    Course w k [⟨now, .fetch, r, (plan w k now .fetch r .fetching).strands⟩]
      (plan w k now .fetch r .fetching).state (plan w k now .fetch r .fetching).strands := by
  cases r with
  | error f => exact .failed rfl
  | ok raws =>
    cases raws with
    | nil =>
      have hfetched :
          fetchedIn [⟨now, .fetch, .ok [], (plan w k now .fetch (.ok []) .fetching).strands⟩] =
            [.ok []] := rfl
      exact .ended hfetched .start rfl
    | cons raw raws =>
      have hstrands : (plan w k now .fetch (.ok (raw :: raws)) .fetching).strands =
          ((Cycle.batch w k (raw :: raws)).opening : Multiset (Strand Batch.Tag.Result)).map lift :=
        zero_add _
      rw [hstrands]
      exact .working rfl .start rfl

theorem strands_work {now : Instant} {t : Batch.Tag} {r : t.Result} {b : Batch} :
    (plan w k now (.work t) r (.working b)).strands = (Batch.plan now t r b).strands.map lift +
      if (Batch.plan now t r b).state.finished then {⟨.tally, .done ()⟩} else 0 := by
  have hlast (c : Bool) : ((if c then [⟨.tally, .done ()⟩] else [] : List (Strand Tag.Result)) :
      Multiset (Strand Tag.Result)) = if c then {⟨.tally, .done ()⟩} else 0 := by
    cases c <;> rfl
  rw [Reaction.strands, Reaction.strands, Multiset.map_add, Multiset.map_coe, Multiset.map_coe,
    add_assoc, ← hlast]
  rfl

theorem work?_strands {now : Instant} {t : Batch.Tag} {r : t.Result} {b : Batch} :
    (plan w k now (.work t) r (.working b)).strands.filterMap work? =
      (Batch.plan now t r b).strands := by
  have hlift : ((Batch.plan now t r b).strands.map lift).filterMap work? =
      (Batch.plan now t r b).strands := by
    rw [Multiset.filterMap_map]
    exact Multiset.filterMap_some _
  rw [strands_work, Multiset.filterMap_add, hlift]
  split
  · exact add_zero _
  · exact add_zero _

/-- A turn of the batch: the half goes on with it, and turns to the tally when all jobs have
ended. -/
theorem Course.worked {now : Instant} {t : Batch.Tag} {r : t.Result} {raws : List Value} {b : Batch}
    {ys : Multiset (Strand Batch.Tag.Result)} (hfetched : fetchedIn log = [.ok raws])
    (hruns : BatchRuns w k raws (workIn log) b (⟨t, .done r⟩ ::ₘ ys)) :
    Course w k (⟨now, .work t, r, (plan w k now (.work t) r (.working b)).strands⟩ :: log)
      (plan w k now (.work t) r (.working b)).state
      ((plan w k now (.work t) r (.working b)).strands + ys.map lift) := by
  have hnext := Runs.turn now hruns
  have hlog : workIn (⟨now, .work t, r, (plan w k now (.work t) r (.working b)).strands⟩ :: log) =
      ⟨now, t, r, (Batch.plan now t r b).strands⟩ :: workIn log := by
    rw [← work?_strands (w := w) (k := k)]
    rfl
  have hstrands : (plan w k now (.work t) r (.working b)).strands + ys.map lift =
      ((Batch.plan now t r b).strands + ys).map lift +
        if (Batch.plan now t r b).state.finished then {⟨.tally, .done ()⟩} else 0 := by
    rw [strands_work, add_right_comm, Multiset.map_add]
  rw [← hlog] at hnext
  rw [hstrands]
  cases hfinished : (Batch.plan now t r b).state.finished with
  | false =>
    rw [if_neg Bool.false_ne_true, add_zero]
    exact .working hfetched hnext hfinished
  | true =>
    obtain ⟨-, -, hnone⟩ := (Batch.sound hnext).finished hfinished
    rw [Multiset.map_eq_zero.1 hnone] at hnext ⊢
    exact .finishing hfetched hnext hfinished (.inl rfl)

theorem Course.turn {now : Instant} {t : Tag} {r : t.Result}
    (hc : Course w k log h (⟨t, .done r⟩ ::ₘ xs)) :
    Course w k (⟨now, t, r, (plan w k now t r h).strands⟩ :: log) (plan w k now t r h).state
      ((plan w k now t r h).strands + xs) := by
  generalize hx : (⟨t, .done r⟩ ::ₘ xs : Multiset (Strand Tag.Result)) = m at hc
  cases hc with
  | fetching a' =>
    obtain ⟨heq, rfl⟩ := Multiset.singleton_eq_cons_iff _ |>.1 hx.symm
    cases heq
    rw [add_zero]
    exact .fetched
  | @working _ raws b' ys hfetched hruns hgoes =>
    obtain ⟨⟨t', a'⟩, ys', rfl, heq, rfl⟩ := eq_cons_of_map hx.symm
    change (⟨.work t', a'⟩ : Strand Tag.Result) = ⟨t, .done r⟩ at heq
    cases heq
    exact .worked hfetched hruns
  | @finishing _ raws b' _ _ hfetched hruns hfinished ht =>
    obtain ⟨heq, rfl⟩ := Multiset.singleton_eq_cons_iff _ |>.1 hx.symm
    cases heq
    obtain rfl | rfl := ht
    · exact .finishing hfetched hruns hfinished (.inr rfl)
    · have hstate : (plan w k now .conclude r (.working b')).state = .ended (.ok raws.length) := by
        rw [← length_jobs hruns]
        rfl
      rw [hstate]
      exact .ended hfetched hruns hfinished
  | ended => exact absurd hx Multiset.cons_ne_zero
  | failed => exact absurd hx Multiset.cons_ne_zero

theorem Course.count (hc : Course w k log h xs) (hfetching : h ≠ .fetching)
    (hfailed : ∀ f, h ≠ .ended (.error f)) :
    ∃ raws, fetchedIn log = [.ok raws] ∧ raws.length = h.count := by
  cases hc with
  | fetching a => exact absurd rfl hfetching
  | @working _ raws b _ hfetched hruns => exact ⟨raws, hfetched, (length_jobs hruns).symm⟩
  | @finishing _ raws b _ _ hfetched hruns => exact ⟨raws, hfetched, (length_jobs hruns).symm⟩
  | @ended _ raws _ hfetched => exact ⟨raws, hfetched, rfl⟩
  | failed => exact absurd rfl (hfailed _)

theorem Course.untouched {b : Batch} (hc : Course w k log (.working b) xs)
    (hgoes : b.finished = false) (hcard : xs.card = b.jobs.length) :
    Batch.endedIn (workIn log) = 0 := by
  cases hc with
  | @working _ raws _ ys hfetched hruns =>
    have hplaces := congrArg Multiset.card (Batch.sound hruns).places
    have hlength := length_jobs hruns
    simp only [Multiset.card_add, Multiset.card_map, Multiset.card_range,
      List.length_map] at hplaces hcard
    have hnone : (Batch.endedIn (workIn log)).card = 0 := by
      simp only [tags, Multiset.card_map] at hplaces
      omega
    exact Multiset.card_eq_zero.1 hnone
  | finishing _ _ hfinished =>
    rw [hgoes] at hfinished
    cases hfinished

/-- A half that has ended without a failure has run each job that it fetched once, and to its
end. -/
structure Complete (w : Worker) (k : Coordinator.Kind) (log : List (Ending Tag.Result))
    (raws : List Value) : Prop where
  fetched : fetchedIn log = [.ok raws]
  started : Batch.startedIn (workIn log) = (raws.map (Cycle.job w k)).zipIdx
  ended : Batch.endedIn (workIn log) = Multiset.range raws.length

/-- Nothing of a half is left: it has run each job that it fetched, or its fetch has failed. -/
def Settled (w : Worker) (k : Coordinator.Kind) (log : List (Ending Tag.Result))
    (xs : Multiset (Strand Tag.Result)) : Prop :=
  ((∃ raws, Complete w k log raws) ∨ ∃ f, fetchedIn log = [.error f]) ∧ xs = 0

/-- No job of a half has been started or has ended twice. -/
def Once (w : Worker) (k : Coordinator.Kind) (log : List (Ending Tag.Result)) : Prop :=
  ∀ raws, fetchedIn log = [.ok raws] →
    Batch.startedIn (workIn log) ≤ (raws.map (Cycle.job w k)).zipIdx ∧
      Batch.endedIn (workIn log) ≤ Multiset.range raws.length

theorem Course.failure {f : Fault} (hc : Course w k log (.ended (.error f)) xs) :
    fetchedIn log = [.error f] := by
  cases hc with
  | failed hfetched => exact hfetched

theorem Course.settled {result : Except Fault Nat} (hc : Course w k log (.ended result) xs) :
    Settled w k log xs := by
  cases hc with
  | @ended _ raws b hfetched hruns hfinished =>
    obtain ⟨hended, hstarted, -⟩ := (Batch.sound hruns).finished hfinished
    exact ⟨.inl ⟨raws, hfetched, hstarted, by simpa using hended⟩, rfl⟩
  | failed hfetched => exact ⟨.inr ⟨_, hfetched⟩, rfl⟩

theorem once_of_runs {raws : List Value} {b ys} (hfetched : fetchedIn log = [.ok raws])
    (hruns : BatchRuns w k raws (workIn log) b ys) : Once w k log := by
  intro raws' hraws'
  obtain rfl : raws = raws' := by simpa [hfetched] using hraws'
  simpa using (Batch.sound hruns).once

theorem Course.once (hc : Course w k log h xs) : Once w k log := by
  cases hc with
  | fetching a => exact fun raws hraws => absurd hraws (List.cons_ne_nil _ _).symm
  | working hfetched hruns => exact once_of_runs hfetched hruns
  | finishing hfetched hruns => exact once_of_runs hfetched hruns
  | ended hfetched hruns => exact once_of_runs hfetched hruns
  | failed hfetched => exact fun raws hraws => by simp [hfetched] at hraws

end TestWorker.Half
