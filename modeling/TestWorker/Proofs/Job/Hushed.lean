import TestWorker.Cycle
import TestWorker.Proofs.Action.Silence
import TestWorker.Proofs.Crew.Hushed
import TestWorker.Proofs.Job.Alike

namespace TestWorker
variable {hears : List Line → Bool}

/-- What is heard of some lines: all or nothing. -/
def hush (hears : List Line → Bool) (lines : List Line) : List Line :=
  if hears lines then lines else []

def Line.Errors (lines : List Line) : Prop := ∀ l ∈ lines, l.stream = .err

theorem Console.error_errors (title message : String) :
    Line.Errors (Console.error title message) := by
  simp [Line.Errors, Console.error, Console.errLine]

theorem Console.fault_errors (c : Console) (f : Fault) : Line.Errors (c.fault f) := by
  unfold Console.fault
  split <;> simp [Line.Errors, Console.errLine]

theorem Line.Errors.append {lines more : List Line} (h : Line.Errors lines)
    (hmore : Line.Errors more) :
    Line.Errors (lines ++ more) :=
  List.forall_mem_append.2 ⟨h, hmore⟩

/-- Of the one console just the progress is not heard that the other does not print. -/
structure Console.Hushed (hears : List Line → Bool) (c c' : Console) : Prop where
  progress text : hush hears (c.progress text) = c'.progress text
  errors {lines : List Line} : Line.Errors lines → hush hears lines = lines
  debug : c.debug = c'.debug

section
variable {c c' : Console}

theorem Console.Hushed.fault (h : Console.Hushed hears c c') (f : Fault) :
    c.fault f = c'.fault f := by
  unfold Console.fault
  rw [h.debug]

theorem Console.Hushed.print_progress (h : Console.Hushed hears c c') (text : String) :
    (Activity.print (c.progress text)).hushed hears = Activity.print (c'.progress text) := by
  rw [Activity.hushed_print, ← h.progress]
  rfl

theorem Console.Hushed.print_errors (h : Console.Hushed hears c c') {lines : List Line}
    (hlines : Line.Errors lines) : (Activity.print lines).hushed hears = Activity.print lines := by
  rw [Activity.hushed_print]
  exact congrArg Activity.print (h.errors hlines)

end

theorem Attempt.outcome_bind_hushed {α β : Type} {t : Attempt α}
    {f : α → Attempt β} (h : t.Silent) :
    (t >>= f).outcome.hushed hears = t.outcome >>= fun
      | .ok a => (f a).outcome.hushed hears
      | .error e => .done (.error e) := by
  rw [outcome_bind, Activity.hushed_bind, Activity.hushed_of_asks h]
  refine congrArg (Activity.bind _) (funext fun x => ?_)
  cases x <;> rfl

namespace Coordinator

theorem call_silent (s : Settings) (method path : String) (parameters : Web.Parameters)
    (content : Web.Content) :
    (call s method path parameters content).Silent := by
  unfold call
  refine (Attempt.Silent.lift (client.send_silent _)).bind fun sent => ?_
  split
  · exact Attempt.silent_ofExcept _
  · exact Attempt.silent_throw _
  · exact Attempt.silent_throw _

theorem fetch_silent (s : Settings) (k : Kind) : (fetch s k).Silent :=
  (call_silent ..).bind fun _ => Attempt.silent_ofExcept _

theorem deliver_silent (s : Settings) (k : Kind) (id : String) (result : Value) :
    (deliver s k id result).Silent :=
  (call_silent ..).bind fun _ => Attempt.silent_pure _

end Coordinator

namespace Test

theorem runSteps_silent (e : Equipment) (strict : Bool) (steps : List Step)
    (c : Context) (p : Progress) :
    (runSteps e strict steps c p).Silent := by
  induction steps generalizing c p with
  | nil => trivial
  | cons s steps ih =>
    rw [runSteps]
    split
    · trivial
    split
    · refine Activity.silent_now.bind fun t => ?_
      exact (Activity.silent_since t).bind fun _ => trivial
    · trivial
    · next a _ =>
      refine (Action.run_silent e a c).bind fun x => ?_
      obtain ⟨o, c⟩ := x
      dsimp only
      split
      · exact ih c (p.add o)
      · trivial

theorem process_silent (e : Equipment) (strict : Bool) (steps : List Step) (c : Context) :
    (process e strict steps c).Silent := by
  unfold process
  refine Activity.silent_now.bind fun started => ?_
  split
  · exact (Activity.silent_since started).bind fun _ => trivial
  split
  · exact (Activity.silent_since started).bind fun _ => trivial
  · trivial
  · exact runSteps_silent ..

end Test

namespace Worker
variable {w : Worker} {level : Logging}

theorem evaluate_silent (w : Worker) (k : Coordinator.Kind) (raw : Value) :
    (w.evaluate k raw).Silent := by
  cases k with
  | requests =>
    refine (Attempt.silent_ofExcept _).bind fun job => ?_
    refine (Attempt.silent_ofExcept _).bind fun definition => ?_
    refine (Attempt.Silent.lift (Action.run_silent ..)).bind fun x => ?_
    exact (Attempt.silent_ofExcept _).bind fun _ => Attempt.silent_pure _
  | tests =>
    refine (Attempt.silent_ofExcept _).bind fun job => ?_
    refine (Attempt.Silent.lift (Test.process_silent ..)).bind fun x => ?_
    exact (Attempt.silent_ofExcept _).bind fun _ => Attempt.silent_pure _

def withLogging (w : Worker) (level : Logging) : Worker :=
  { w with
    settings := { w.settings with logging := level }
    console := { w.console with logging := level } }

/-- The worker at the level prints what is heard of the other. -/
abbrev Hushed (hears : List Line → Bool) (w : Worker) (level : Logging) : Prop :=
  Console.Hushed hears w.console (w.withLogging level).console

def Told.hush (hears : List Line → Bool) (told : Told) : Told :=
  { told with lines := TestWorker.hush hears told.lines }

theorem evaluate_withLogging (h : w.Hushed hears level) (k : Coordinator.Kind) (raw : Value) :
    (w.withLogging level).evaluate k raw = Told.hush hears <$> w.evaluate k raw := by
  have := Activity.lawfulMonad
  have hresult (what id : String) (success : Bool) (time : Option Double) :
      (w.withLogging level).console.jobResult what id success time =
        TestWorker.hush hears (w.console.jobResult what id success time) := (h.progress _).symm
  cases k with
  | requests =>
    simp only [evaluate, evaluateRequest, map_bind, map_pure, hresult]
    rfl
  | tests =>
    simp only [evaluate, evaluateTest, map_bind, map_pure, hresult]
    rfl

theorem report_hushed (h : w.Hushed hears level) (k : Coordinator.Kind)
    (id : String) (result : Value) :
    (w.report k id result).outcome.hushed hears =
      ((w.withLogging level).report k id result).outcome := by
  unfold report
  rw [Attempt.outcome_bind_hushed (Attempt.Silent.lift (Coordinator.deliver_silent ..))]
  rw [Attempt.outcome_bind]
  refine congrArg (Activity.bind _) (funext fun x => ?_)
  cases x with
  | error f => rfl
  | ok sent =>
    dsimp only
    split
    · rfl
    · rw [Attempt.outcome_liftM, Activity.hushed_bind, h.print_errors (Console.error_errors _ _)]
      rfl
    · rfl

theorem tell_hushed (h : w.Hushed hears level) (k : Coordinator.Kind) (told : Told) :
    (w.tell k told).outcome.hushed hears =
      ((w.withLogging level).tell k (Told.hush hears told)).outcome := by
  unfold tell
  rw [Attempt.outcome_bind, Attempt.outcome_bind, Attempt.outcome_liftM, Attempt.outcome_liftM,
    Activity.bind_assoc, Activity.bind_assoc, Activity.hushed_bind, Activity.hushed_print]
  refine congrArg (Activity.bind _) (funext fun _ => ?_)
  exact report_hushed h k told.id told.result

theorem execute_hushed (h : w.Hushed hears level) (k : Coordinator.Kind) (raw : Value) :
    (w.execute k raw).outcome.hushed hears = ((w.withLogging level).execute k raw).outcome := by
  have := Activity.lawfulMonad
  rw [execute_eq, execute_eq, evaluate_withLogging h, bind_map_left,
    Attempt.outcome_bind_hushed (evaluate_silent ..), Attempt.outcome_bind]
  refine congrArg (Activity.bind _) (funext fun x => ?_)
  cases x with
  | error f => rfl
  | ok told => exact tell_hushed h k told

end Worker

namespace Cycle
variable {w : Worker} {level : Logging}

theorem job_hushed (h : w.Hushed hears level) (k : Coordinator.Kind) (raw : Value) :
    (job w k raw).hushed hears = job (w.withLogging level) k raw := by
  unfold job Worker.isolated
  rw [Activity.hushed_bind, Worker.execute_hushed h]
  refine congrArg (Activity.bind _) (funext fun x => ?_)
  cases x with
  | ok _ => rfl
  | error f =>
    have hlines : Line.Errors (Worker.jobFailure w.console (Worker.jobName raw) f) :=
      (Console.error_errors _ _).append (Console.fault_errors _ _)
    dsimp only
    rw [Activity.hushed_bind, h.print_errors hlines, Worker.jobFailure, h.fault]
    rfl

theorem fetch_hushed (h : w.Hushed hears level) (k : Coordinator.Kind) :
    (fetch w k).hushed hears = fetch (w.withLogging level) k := by
  unfold fetch
  rw [Activity.hushed_bind, Console.fetching, h.print_progress]
  refine congrArg (Activity.bind _) (funext fun _ => ?_)
  rw [Activity.hushed_bind, Activity.hushed_of_asks (Coordinator.fetch_silent ..)]
  refine congrArg (Activity.bind _) (funext fun x => ?_)
  split
  · rw [Activity.hushed_bind, h.print_errors (Console.error_errors _ _)]
    rfl
  · rfl

end Cycle
end TestWorker
