import TestWorker.Cycle
import TestWorker.Proofs.Job.Test
import TestWorker.Proofs.Test.Absence

namespace TestWorker

namespace Wire
variable {α : Type} {read : Value → Except (List Issue) α}

/-- What an object gives for a field: what stands under the first of its names that is there. -/
def given (es : Entries) (names : List String) : Option Value := names.findSome? (Entries.get? es)

theorem findSome?_key {es : Entries} {names : List String} {v : Value}
    (h : given es names = some v) :
    ∃ k, names.findSome? (fun k => (Entries.get? es k).map (k, ·)) = some (k, v) := by
  induction names with
  | nil => cases h
  | cons name names ih =>
    unfold given at h
    rw [List.findSome?_cons] at h ⊢
    cases hv : Entries.get? es name with
    | some w =>
      rw [hv] at h
      cases h
      exact ⟨name, rfl⟩
    | none =>
      rw [hv] at h
      exact ih h

theorem field_congr {es es' : Entries} {names : List String} (default : Option α)
    (h : ∀ k ∈ names, Entries.get? es' k = Entries.get? es k) :
    field (.object es') names default read = field (.object es) names default read := by
  have hfound : names.findSome? (fun k => (Entries.get? es' k).map (k, ·)) =
      names.findSome? fun k => (Entries.get? es k).map (k, ·) := by
    induction names with
    | nil => rfl
    | cons name names ih =>
      rw [List.findSome?_cons, List.findSome?_cons, h name (by simp),
        ih fun k hk => h k (by simp [hk])]
  simp only [field]
  rw [hfound]
  rfl

theorem field_without_others (es : Entries) {names others : List String}
    (default : Option α) (h : ∀ k ∈ names, k ∉ others) :
    field (.object (Entries.without es others)) names default read =
      field (.object es) names default read :=
  field_congr default fun k hk => Entries.get?_without_of_not_mem es (h k hk)

theorem field_put_others (es : Entries) {names : List String}
    {k' : String} (v : Value) (default : Option α) (h : k' ∉ names) :
    field (.object (Entries.put es k' v)) names default read =
      field (.object es) names default read := by
  apply field_congr default
  intro k hk
  rw [Entries.get?_put, if_neg]
  rintro rfl
  exact h hk

theorem field_without {es : Entries} {names : List String} {a : α}
    (h : given es names = some .null) :
    field (.object (Entries.without es names)) names (some a) (orElse a read) =
      field (.object es) names (some a) (orElse a read) := by
  obtain ⟨k, hk⟩ := findSome?_key h
  have hnone : names.findSome? (fun k => (Entries.get? (Entries.without es names) k).map (k, ·)) =
      none := by
    apply List.findSome?_eq_none_iff.2
    intro k hk
    rw [Entries.get?_without_of_mem es hk]
    rfl
  simp only [field]
  rw [hk, hnone]
  rfl

theorem bindings_eq : bindings = orElse [] object := rfl

theorem items_replace {v v' : Value} (h : read v = read v') (n : Nat) (before after : List Value) :
    items read n (before ++ v :: after) = items read n (before ++ v' :: after) := by
  induction before generalizing n with
  | nil => rw [List.nil_append, List.nil_append, items, items, h]
  | cons u before ih => rw [List.cons_append, List.cons_append, items, items, ih]

/-- The fields that a job of a kind may leave out, each under all its names. -/
def optionalFields : Coordinator.Kind → List (List String)
  | .requests =>
    [["request"], ["testVariables", "test_variables"], ["envVariables", "env_variables"]]
  | .tests => [["actions"], ["testVariables", "test_variables"], ["envVariables", "env_variables"]]

/-- A raw job beside the same job with one field left out that is null. -/
inductive Unsaid : Coordinator.Kind → Value → Value → Prop
  | field {k : Coordinator.Kind} {es : Entries} {names : List String}
    (hnames : names ∈ optionalFields k)
      (h : given es names = some .null) : Unsaid k (.object es) (.object (Entries.without es names))
  | parameters {es step : Entries} {before after : List Value}
    (h : given step ["parameters"] = some .null) :
      Unsaid .tests (.object (Entries.put es "actions" (.list (before ++ .object step :: after))))
        (.object (Entries.put es "actions"
          (.list (before ++ .object (Entries.without step ["parameters"]) :: after))))

theorem RequestJob.read_without {es : Entries} {names : List String}
    (hnames : names ∈ optionalFields .requests) (h : given es names = some .null) :
    RequestJob.read (.object (Entries.without es names)) = RequestJob.read (.object es) := by
  simp only [optionalFields, List.mem_cons, List.not_mem_nil, or_false] at hnames
  simp only [RequestJob.read, model, bindings_eq]
  rcases hnames with rfl | rfl | rfl
  all_goals
    rw [field_without h, field_without_others es _ (by decide),
      field_without_others es _ (by decide), field_without_others es _ (by decide)]

theorem TestJob.read_without {es : Entries} {names : List String}
    (hnames : names ∈ optionalFields .tests) (h : given es names = some .null) :
    TestJob.read (.object (Entries.without es names)) = TestJob.read (.object es) := by
  simp only [optionalFields, List.mem_cons, List.not_mem_nil, or_false] at hnames
  simp only [TestJob.read, model, bindings_eq]
  rcases hnames with rfl | rfl | rfl
  all_goals
    rw [field_without h, field_without_others es _ (by decide),
      field_without_others es _ (by decide), field_without_others es _ (by decide)]

theorem TestStep.read_without {step : Entries} (h : given step ["parameters"] = some .null) :
    TestStep.read (.object (Entries.without step ["parameters"])) =
      TestStep.read (.object step) := by
  simp only [TestStep.read, model, bindings_eq]
  rw [field_without h, field_without_others step _ (by decide)]

/-- Of `actions`, a job reads what the reader of steps makes of each. -/
theorem TestJob.read_replace {step step' : Value} (h : TestStep.read step = TestStep.read step')
    (es : Entries) (before after : List Value) :
    TestJob.read (.object (Entries.put es "actions" (.list (before ++ step :: after)))) =
      TestJob.read (.object (Entries.put es "actions" (.list (before ++ step' :: after)))) := by
  have hactions : ∀ v, field (.object (Entries.put es "actions" v)) ["actions"] (some [])
      (orElse [] (list TestStep.read)) =
        Checked.under (.key "actions") (orElse [] (list TestStep.read) v) := by
    intro v
    simp [field, Entries.get?_put]
  have hitems : ∀ vs, orElse [] (list TestStep.read) (.list vs) = items TestStep.read 0 vs :=
    fun _ => rfl
  simp only [TestJob.read, model]
  -- the other fields do not look at `actions`
  rw [hactions, hactions, hitems, hitems, items_replace h]
  rw [field_put_others es _ _ (by decide), field_put_others es _ _ (by decide),
    field_put_others es _ _ (by decide), field_put_others es _ _ (by decide),
    field_put_others es _ _ (by decide), field_put_others es _ _ (by decide)]

end Wire

def Wire.RequestJob.without (job : Wire.RequestJob) (k : String) : Wire.RequestJob :=
  { job with request := Entries.without job.request [k] }

namespace Worker
variable {w : Worker}

theorem jobName_congr {es es' : Entries} (h : Entries.get? es' "id" = Entries.get? es "id") :
    jobName (.object es') = jobName (.object es) := by
  change ((Entries.get? es' "id").getD (.text "?")).display = _
  rw [h]
  rfl

theorem execute_requests_congr {raw raw' : Value}
    (h : Wire.RequestJob.read raw' = Wire.RequestJob.read raw) :
    w.execute .requests raw' = w.execute .requests raw := by
  unfold execute
  rw [h]

theorem execute_tests_congr {raw raw' : Value}
    (h : Wire.TestJob.read raw' = Wire.TestJob.read raw) :
    w.execute .tests raw' = w.execute .tests raw := by
  unfold execute
  rw [h]

/-- A fetched job does the same without a field that is null, also where it cannot be read. -/
theorem job_of_unsaid {k : Coordinator.Kind} {raw raw' : Value} (h : Wire.Unsaid k raw raw') :
    Cycle.job w k raw' = Cycle.job w k raw := by
  unfold Cycle.job
  cases h with
  | @field k es names hnames h =>
    -- the name by which a failure is told stands under `id`, which no job may leave out
    have hid : "id" ∉ names := by
      revert hnames
      cases k <;> simp only [Wire.optionalFields, List.mem_cons, List.not_mem_nil, or_false] <;>
        rintro (rfl | rfl | rfl) <;> decide
    rw [jobName_congr (Entries.get?_without_of_not_mem es hid)]
    cases k with
    | requests => rw [execute_requests_congr (Wire.RequestJob.read_without hnames h)]
    | tests => rw [execute_tests_congr (Wire.TestJob.read_without hnames h)]
  | @parameters es step before after h =>
    have hread := Wire.TestJob.read_replace (Wire.TestStep.read_without h) es before after
    rw [execute_tests_congr hread, jobName_congr]
    rw [Entries.get?_put, Entries.get?_put, if_neg (by decide), if_neg (by decide)]

def variablesOf (job : Wire.RequestJob) : Context :=
  Context.create job.testVariables job.envVariables

theorem requestAction_runAlike {p q : Entries} (h : Action.HttpCall.ReadAlike p q) :
    Action.RunAlike (requestAction (.object p)) (requestAction (.object q)) :=
  Action.runAlike_http h "Http.request"

theorem executeRequest_without {job : Wire.RequestJob} {k : String}
    (h : Action.Void (variablesOf job) job.request k) (strict : Bool) :
    w.executeRequest strict (job.without k) = w.executeRequest strict job := by
  have hbind : ∀ (v : Value) (f : Value → Attempt ExecutionResult),
    Attempt.ofExcept (.ok v) >>= f = f v :=
    fun _ _ => rfl
  unfold executeRequest
  change (Attempt.ofExcept (Placeholder.resolve strict (variablesOf job)
    (.object (Entries.without job.request [k]))) >>= _) =
      (Attempt.ofExcept (Placeholder.resolve strict (variablesOf job) (.object job.request)) >>= _)
  rcases Placeholder.resolve_without strict h.null with ⟨f, hf, hf'⟩ | ⟨p, hp, hp', hsub⟩
  · rw [hf, hf']
    rfl
  · rw [hp, hp', hbind, hbind, ← requestAction_runAlike (h.readAlike hsub) w.equipment]
    rfl

theorem executeTest_of_process_eq {σ : Type} {o : Outside σ}
    {strict : Bool} {job : Wire.TestJob} {actions : List Wire.TestStep}
    {x : Test.Scene σ} (hx : x.context = Context.create job.testVariables job.envVariables)
    (hrun : (Test.process w.equipment strict (actions.map (·.step)) x.context).run
      o x.instant x.state =
      (Test.process w.equipment strict (stepsOf job) x.context).run o x.instant x.state)
    (htrace : (Test.process w.equipment strict (actions.map (·.step)) x.context).trace
      o x.instant x.state =
      (Test.process w.equipment strict (stepsOf job) x.context).trace o x.instant x.state) :
    (w.executeTest strict { job with actions }).outcome.run o x.instant x.state =
        (w.executeTest strict job).outcome.run o x.instant x.state ∧
      (w.executeTest strict { job with actions }).outcome.trace o x.instant x.state =
        (w.executeTest strict job).outcome.trace o x.instant x.state := by
  have hsteps : stepsOf { job with actions } = actions.map (·.step) := rfl
  rw [executeTest_outcome, executeTest_outcome, ← hx, hsteps]
  constructor
  · rw [Activity.run_bind, Activity.run_bind, hrun]
  · rw [Activity.trace_bind, Activity.trace_bind, hrun, htrace]

/-- A field that is null means the same as one that is left out. A raw job does the same without
each optional field that is null, and without a step's null parameters. So does a request without a
parameter of its action that is null or comes to null, and a test without a parameter of a step that
is null when the step's turn comes, if the dialect of a query is null at the start already. Of a
`data` that is null, this says so where there is no `body`. -/
theorem null_as_absent (w : Worker) :
    (∀ (k : Coordinator.Kind) (raw raw' : Value), Wire.Unsaid k raw raw' →
      Cycle.job w k raw' = Cycle.job w k raw) ∧
    (∀ (strict : Bool) (job : Wire.RequestJob) (k : String),
      Action.Void (variablesOf job) job.request k →
      w.executeRequest strict (job.without k) = w.executeRequest strict job ∧
      ∀ e, (requestAction
        (Placeholder.substitute (variablesOf job) (.object (job.without k).request))).run e
          (variablesOf job) =
        (requestAction (Placeholder.substitute (variablesOf job) (.object job.request))).run e
          (variablesOf job)) ∧
    ∀ (σ : Type) (o : Outside σ) (strict : Bool) (job : Wire.TestJob)
      (first rest : List Wire.TestStep)
      (s : Wire.TestStep) (k : String) (x : Test.Scene σ), job.actions = first ++ s :: rest →
      x.context = Context.create job.testVariables job.envVariables →
      (∀ y, Test.Reaches w.equipment strict o (stepsOf job) (first.map (·.step)) x y →
        Action.Void y.context s.parameters k) →
      (s.action = "Database.query" → k = "dialect" →
        ∀ v, (k, v) ∈ s.parameters → Placeholder.substitute x.context v = .null) →
      let job' : Wire.TestJob := { job with actions := first ++ s.without k :: rest }
      ((Test.process w.equipment strict (stepsOf job') x.context).run o x.instant x.state =
          (Test.process w.equipment strict (stepsOf job) x.context).run o x.instant x.state ∧
        (Test.process w.equipment strict (stepsOf job') x.context).trace o x.instant x.state =
          (Test.process w.equipment strict (stepsOf job) x.context).trace o x.instant x.state) ∧
      (w.executeTest strict job').outcome.run o x.instant x.state =
          (w.executeTest strict job).outcome.run o x.instant x.state ∧
        (w.executeTest strict job').outcome.trace o x.instant x.state =
          (w.executeTest strict job).outcome.trace o x.instant x.state := by
  refine ⟨fun k raw raw' h => job_of_unsaid h, ?_, ?_⟩
  · intro strict job k h
    refine ⟨executeRequest_without h strict, fun e => ?_⟩
    rcases Placeholder.resolve_without false h.null with ⟨f, hf, -⟩ | ⟨p, hp, hp', hsub⟩
    · cases hf
    · have hes := Except.ok.inj hp'
      change Placeholder.substitute _ (.object (job.without k).request) = _ at hes
      rw [hes, hsub]
      exact (requestAction_runAlike (h.readAlike hsub) e _).symm
  · intro σ o strict job first rest s k x hjob hx hturn hstart job'
    have hsteps : stepsOf job = first.map (·.step) ++ s.step :: rest.map (·.step) := by
      change job.actions.map (·.step) = _
      rw [hjob, List.map_append, List.map_cons]
    have hsteps' : (first ++ s.without k :: rest).map (·.step) =
        first.map (·.step) ++ (s.without k).step :: rest.map (·.step) := by
      rw [List.map_append, List.map_cons]
    rw [hsteps] at hturn
    obtain ⟨hrun, htrace⟩ := Test.process_without hturn hstart
    rw [← hsteps, ← hsteps'] at hrun htrace
    exact ⟨⟨hrun.symm, htrace.symm⟩, executeTest_of_process_eq hx hrun.symm htrace.symm⟩

def sparseRequest : Wire.RequestJob where
  id := "r"
  request := [("url", .text "https://api.test/x"), ("timeout", .text "\x7b\x7blimit\x7d\x7d")]
  testVariables := [("limit", .null)]

def sparseStep : Wire.TestStep :=
  ⟨"Http.post", [("url", .text "https://api.test/x"), ("headers", .text "\x7b\x7bnone\x7d\x7d"),
    ("data", .list [.int 1])]⟩

def sparseTest : Wire.TestJob where
  id := "t"
  actions := [sparseStep, ⟨"Http.get", []⟩]
  testVariables := [("none", .null)]

def sparseScene : Test.Scene Rehearsal :=
  ⟨Context.create sparseTest.testVariables sparseTest.envVariables, 0, {}⟩

theorem sparseRequest_void :
    Action.Void (variablesOf sparseRequest) sparseRequest.request "timeout" where
  null := by
    intro v hv
    obtain rfl : v = .text "\x7b\x7blimit\x7d\x7d" := by simpa [sparseRequest] using hv
    exact Value.eq_null_of_isNull (by decide +kernel)
  body := fun h => absurd h (by decide)

theorem sparseStep_void : Action.Void sparseScene.context sparseStep.parameters "headers" where
  null := by
    intro v hv
    obtain rfl : v = .text "\x7b\x7bnone\x7d\x7d" := by simpa [sparseStep] using hv
    exact Value.eq_null_of_isNull (by decide +kernel)
  body := fun h => absurd h (by decide)

theorem null_as_absent_sample :
    Cycle.job sampleWorker .tests (.object [("id", .text "t")]) =
        Cycle.job sampleWorker .tests (.object [("id", .text "t"), ("actions", .null)]) ∧
      sampleWorker.executeRequest true (sparseRequest.without "timeout") =
        sampleWorker.executeRequest true sparseRequest ∧
      (sampleWorker.executeTest true
          { sparseTest with actions := [sparseStep.without "headers",
            ⟨"Http.get", []⟩] }).outcome.trace
          Rehearsal.outside 0 {} =
        (sampleWorker.executeTest true sparseTest).outcome.trace Rehearsal.outside 0 {} := by
  obtain ⟨hraw, hrequest, htest⟩ := null_as_absent sampleWorker
  refine ⟨?_, (hrequest true sparseRequest "timeout" sparseRequest_void).1, ?_⟩
  · have hunsaid : Wire.Unsaid .tests (.object [("id", .text "t"), ("actions", .null)])
        (.object (Entries.without [("id", .text "t"), ("actions", .null)] ["actions"])) :=
      .field (by decide) rfl
    exact hraw .tests _ _ hunsaid
  · have hturn : ∀ y,
      Test.Reaches sampleWorker.equipment true Rehearsal.outside (stepsOf sparseTest) []
        sparseScene y → Action.Void y.context sparseStep.parameters "headers" := by
      rintro y ⟨-, vs, hvs, -⟩
      cases hvs
      exact sparseStep_void
    exact (htest Rehearsal Rehearsal.outside true sparseTest [] [⟨"Http.get", []⟩] sparseStep
      "headers" sparseScene rfl rfl hturn fun h => absurd h (by decide)).2.2

/-- The dialect comes to null when its turn comes, after the first step was evaluated; left out, it
has the test refused before. And of a null `data`, the `body` beside it is not sent. -/
theorem null_told_apart :
    (((Test.process ⟨⟨some .targets, false⟩, Provider.catalogue⟩ false [
          ⟨.text "Faker.generate",
            .object [("category", .text "python"), ("function", .text "pyobject"),
            ("variable", .text "d")]⟩,
          ⟨.text "Database.query", .object [("dialect", .text "\x7b\x7bd\x7d\x7d"),
            ("connection", .text "sqlite+aiosqlite:///x.db"), ("query", .text "select 1")]⟩] {}).run
        Rehearsal.outside 0 {}).1.1.toOption.map fun out => out.reports.map fun r =>
          (r.action, r.success)) =
      some [("Faker.generate", true), ("Test.configure", false)] ∧
    (((Test.process ⟨⟨some .targets, false⟩, Provider.catalogue⟩ false [
          ⟨.text "Faker.generate",
            .object [("category", .text "python"), ("function", .text "pyobject"),
            ("variable", .text "d")]⟩,
          ⟨.text "Database.query", .object [("connection", .text "sqlite+aiosqlite:///x.db"),
            ("query", .text "select 1")]⟩] {}).run
        Rehearsal.outside 0 {}).1.1.toOption.map fun out => out.reports.map fun r =>
          (r.action, r.success)) =
      some [("Test.configure", false)] ∧
    ((Action.run ⟨⟨some .targets, false⟩, []⟩
      (requestAction (.object [("url", .text "https://api.test/x"),
        ("data", .null), ("body", .text "x")])) {}).run Rehearsal.outside
          0 {}).2.2.record.requests.map
          (fun r => r.2.body) = [[]] ∧
    ((Action.run ⟨⟨some .targets, false⟩, []⟩
      (requestAction (.object [("url", .text "https://api.test/x"),
        ("body", .text "x")])) {}).run Rehearsal.outside 0 {}).2.2.record.requests.map
          (fun r => r.2.body) = [[120]] := by
  refine ⟨?_, ?_, ?_, ?_⟩ <;> decide +kernel

end Worker
end TestWorker
