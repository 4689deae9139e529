import TestWorker.Proofs.Job.Hushed

namespace TestWorker
variable {τ S σ : Type} {ρ : τ → Type} {hears : List Line → Bool} {f : S → S}

/-- What is heard of the first routine is the second. -/
structure Routine.Hushed (hears : List Line → Bool) (f : S → S) (p q : Routine ρ S) : Prop where
  begin n s : q.begin n (f s) = (p.begin n s).hushed hears f
  react now t (r : ρ t) s :
    q.react now t r (f s) = ((p.react now t r s).1.hushed hears f, (p.react now t r s).2)

namespace Shift

/-- All but the work stays as it is. -/
def hushed (f : S → S) (s : Shift S) : Shift S := { s with work := f s.work }

theorem inner_hushed (xs : List (Strand ρ)) :
    (xs.map (Strand.hushed hears)).map inner = (xs.map inner).map (Strand.hushed hears) := by
  rw [List.map_map, List.map_map]
  rfl

theorem failure_errors (c : Console) (n : Nat) (fault : Fault) : Line.Errors (failure c n fault) :=
  (Console.error_errors _ _).append (Console.fault_errors _ _)

variable {c c' : Console}

private abbrev Strands (ρ : τ → Type) : Type :=
  List (Strand (Tag.Result ρ)) × List (Strand (Tag.Result ρ))

theorem obey_hushed (h : Console.Hushed hears c c') (oneShot : Bool) (command : Schedule.Command) :
    obey (ρ := ρ) c' oneShot command = ((obey c oneShot command).1.map (Strand.hushed hears),
      (obey c oneShot command).2.map (Strand.hushed hears)) := by
  cases command with
  | sleep interval => rfl
  | begin n =>
    exact congrArg (fun a : Activity Unit => (⟨[], [⟨.opening n, a⟩]⟩ : Strands ρ))
      (h.print_progress _).symm
  | resume turns => rfl
  | timeUp =>
    exact congrArg (fun a : Activity Unit => (⟨[⟨.notice, a⟩], []⟩ : Strands ρ))
      (h.print_progress _).symm
  | finish n =>
    cases oneShot with
    | true => rfl
    | false =>
      exact congrArg (fun a : Activity Unit => (⟨[⟨.farewell n, a⟩], []⟩ : Strands ρ))
        (h.print_progress _).symm

theorem follow_hushed (h : Console.Hushed hears c c') (s : Shift S)
    (x : Schedule × List Schedule.Command) :
    follow (ρ := ρ) c' (s.hushed f) x = (follow c s x).hushed hears (hushed f) := by
  unfold follow Reaction.hushed
  simp only [List.map_flatMap, obey_hushed h]
  rfl

theorem heed_hushed (h : Console.Hushed hears c c') (x : Reaction (Tag.Result ρ) (Shift S))
    (signal : Signal) :
    heed c' (x.hushed hears (hushed f)) signal = (heed c x signal).hushed hears (hushed f) := by
  cases signal with
  | stop =>
    have hfollow := follow_hushed (ρ := ρ) (f := f) h x.state x.state.schedule.stop
    change (⟨(follow (ρ := ρ) c' (x.state.hushed f) x.state.schedule.stop).state,
      x.first.map (Strand.hushed hears) ++
        (follow c' (x.state.hushed f) x.state.schedule.stop).first,
      x.later.map (Strand.hushed hears) ++
        (follow c' (x.state.hushed f) x.state.schedule.stop).later⟩ :
        Reaction (Tag.Result ρ) (Shift S)) = _
    rw [hfollow]
    simp only [heed, Reaction.hushed, List.map_append]
  | cycleEnded n outcome =>
    have hheed {a a' : Activity Unit} (ha : a' = a.hushed hears) :
        (⟨x.state.hushed f, x.first.map (Strand.hushed hears) ++ [⟨.closing n, a'⟩],
          x.later.map (Strand.hushed hears)⟩ : Reaction (Tag.Result ρ) (Shift S)) =
        (⟨x.state, x.first ++ [⟨.closing n, a⟩], x.later⟩ : Reaction _ _).hushed hears
          (hushed f) := by
      rw [ha, Reaction.hushed, List.map_append]
      rfl
    cases outcome with
    | ok _ => exact hheed rfl
    | error e =>
      refine hheed ?_
      rw [h.print_errors (failure_errors c n e), failure, h.fault]
      rfl

theorem foldl_heed_hushed (h : Console.Hushed hears c c') (signals : List Signal)
    (x : Reaction (Tag.Result ρ) (Shift S)) :
    signals.foldl (heed c') (x.hushed hears (hushed f)) =
      (signals.foldl (heed c) x).hushed hears (hushed f) := by
  induction signals generalizing x with
  | nil => rfl
  | cons signal signals ih => rw [List.foldl_cons, List.foldl_cons, heed_hushed h, ih]

theorem plan_hushed (hc : Console.Hushed hears c c') {p q : Routine ρ S} (h : p.Hushed hears f q) :
    Plan.Hushed hears (hushed f) (plan c p) (plan c' q) := by
  intro now tag result s
  have hfollow := follow_hushed (ρ := ρ) (f := f) hc s
  cases tag with
  | run => exact hfollow _
  | stop => exact hfollow _
  | interval => exact hfollow _
  | resume turns =>
    cases turns with
    | zero => exact hfollow _
    | succ turns => rfl
  | opening n =>
    change (⟨⟨s.schedule.note now n true, (q.begin n (f s.work)).state, s.results⟩,
      (q.begin n (f s.work)).first.map inner, (q.begin n (f s.work)).later.map inner⟩ :
        Reaction (Tag.Result ρ) (Shift S)) = _
    rw [h.begin]
    simp only [plan, Reaction.hushed, hushed, inner_hushed]
  | closing n => exact hfollow _
  | notice => rfl
  | farewell n => rfl
  | inner t =>
    change ρ t at result
    change (q.react now t result (f s.work)).2.foldl (heed c')
      ⟨⟨s.schedule, (q.react now t result (f s.work)).1.state, s.results⟩,
        (q.react now t result (f s.work)).1.first.map inner,
        (q.react now t result (f s.work)).1.later.map inner⟩ = _
    rw [h.react]
    refine Eq.trans ?_ (foldl_heed_hushed hc _ _)
    simp only [Reaction.hushed, inner_hushed]
    rfl

/-- What is heard of a run with the first routine is one with the second. -/
theorem serve_hushed (hc : Console.Hushed hears c c') {p q : Routine ρ S}
    (h : p.Hushed hears f q) {V : σ → σ → Prop} {o : Outside σ}
    (ho : o.Deaf V) (fuel : Nat) {x y : Crew (Tag.Result ρ) (Shift S) (σ × List (Instant × Effect))}
    (hxy : Crew.Hushed hears (hushed f) V x y) :
    Crew.Hushed hears (hushed f) V (serve c p o.recording fuel x)
      (serve c' q o.recording fuel y) := by
  have hready : Crew.Hushed hears (hushed f) V (ready x) (ready y) := by
    obtain @⟨now, strands, alarms, s, w, w', hw⟩ := hxy
    have hstrands : (strands ++ [runStrand]).map (Strand.hushed hears) =
        strands.map (Strand.hushed hears) ++ [runStrand (ρ := ρ)] := List.map_append
    change Crew.Hushed hears (hushed f) V _ ⟨now, strands.map (Strand.hushed hears) ++ [runStrand],
      alarms.map (Alarm.hushed hears), hushed f s, w'⟩
    rw [← hstrands]
    exact ⟨hw⟩
  have hresults : y.state.results = x.state.results := by rw [hxy.state, hushed]
  unfold serve
  rw [hresults]
  exact hready.runUntil (plan_hushed hc h) ho (fun _ => rfl) fuel

end Shift
end TestWorker
