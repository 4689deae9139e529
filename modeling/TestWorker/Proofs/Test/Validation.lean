import TestWorker.Job
import TestWorker.Proofs.Placeholder.Substitute

namespace TestWorker

namespace Action

theorem methodNames : methods.map methodName =
    ["Http.get", "Http.post", "Http.put", "Http.patch", "Http.delete",
      "Http.head", "Http.options"] := by
  decide +kernel

theorem ofName?_eq_none_iff {n : String} :
    Recipe.ofName? n = none ↔ n ∉ Misconfiguration.knownActions := by
  have hmethods : (methods.find? fun m => methodName m == n) = none ↔
      n ∉ methods.map methodName := by
    simp [List.find?_eq_none]
  rw [methodNames] at hmethods
  unfold Recipe.ofName?
  split
  · rename_i h
    rw [beq_iff_eq.1 h]
    decide
  split
  · rename_i h
    rw [beq_iff_eq.1 h]
    decide
  split
  · rename_i h
    rw [beq_iff_eq.1 h]
    decide
  rename_i h1 h2 h3
  rw [Option.map_eq_none_iff, hmethods]
  simp only [beq_iff_eq] at h1 h2 h3
  simp [Misconfiguration.knownActions, h1, h2, h3]
  grind

theorem ofName?_eq_query {n : String} : Recipe.ofName? n = some .query ↔ n = "Database.query" := by
  unfold Recipe.ofName?
  constructor
  · intro h
    split at h
    · cases h
    split at h
    · cases h
    split at h
    · rename_i h3
      exact beq_iff_eq.1 h3
    · simp at h
  · rintro rfl
    rfl

theorem parametersOf_object (es : Entries) : parametersOf (.object es) = .ok es := by
  cases es with
  | nil => rfl
  | cons e es =>
    refine congrArg Except.ok ?_
    rw [Context.ofEntries, List.filterMap_map]
    exact List.filterMap_some

theorem mapOf_object (refuse : String → Fault) (es : Entries) :
    mapOf refuse (.object es) = .ok es := by
  cases es <;> rfl

/-- An action is built under a known name, and the name is its own. -/
theorem name_of_build {name p : Value} {a : Action} (h : build name p = .ok a) :
    name = .text a.name ∧ a.name ∈ Misconfiguration.knownActions := by
  cases name with
  | text n =>
    unfold build at h
    split at h
    · rename_i r hr
      have hn : Recipe.ofName? n = some r := hr
      have hknown : n ∈ Misconfiguration.knownActions := by
        apply Decidable.byContradiction
        intro hnot
        simp [ofName?_eq_none_iff.2 hnot] at hn
      suffices a.name = n by rw [this]; exact ⟨rfl, hknown⟩
      -- one recipe for each name, and it builds actions of that name
      unfold Recipe.ofName? at hn
      split at hn
      · rename_i h1
        cases hn
        obtain ⟨es, -, ha⟩ := Except.bind_eq_ok.1 h
        cases ha
        exact (beq_iff_eq.1 h1).symm
      split at hn
      · rename_i h1
        cases hn
        obtain ⟨es, -, ha⟩ := Except.bind_eq_ok.1 h
        cases ha
        exact (beq_iff_eq.1 h1).symm
      split at hn
      · rename_i h1
        cases hn
        obtain ⟨es, -, ha⟩ := Except.bind_eq_ok.1 h
        dsimp only at ha
        split at ha
        · cases ha
          exact (beq_iff_eq.1 h1).symm
        · cases ha
      · obtain ⟨m, hm, rfl⟩ := Option.map_eq_some_iff.1 hn
        obtain ⟨es, -, ha⟩ := Except.bind_eq_ok.1 h
        cases ha
        have hname := List.find?_some hm
        exact beq_iff_eq.1 hname
    · cases h
  | _ => cases h

end Action

/-- Upper and lower case are the same in a dialect's name. -/
def KnownDialect : Value → Prop
  | .text s => Text.lower s ∈ Misconfiguration.knownDialects
  | _ => False

instance : DecidablePred KnownDialect
  | .text s => inferInstanceAs (Decidable (Text.lower s ∈ Misconfiguration.knownDialects))
  | .null | .bool _ | .int _ | .float _ | .bytes _ | .decimal _ | .date _ | .tuple _ | .list _
  | .object _ => isFalse id

theorem KnownDialect.exists_text {v : Value} (h : KnownDialect v) : ∃ r, v = .text r := by
  cases v with
  | text r => exact ⟨r, rfl⟩
  | _ => cases h

namespace Action

theorem dialect?_eq_none_iff {v : Value} : dialect? v = none ↔ ¬KnownDialect v := by
  cases v with
  | text s =>
    simp only [dialect?, Database.Dialect.ofName?, KnownDialect, List.find?_eq_none,
      Misconfiguration.knownDialects]
    simp [Database.Dialect.name]
    grind
  | _ => simp [dialect?, KnownDialect]

/-- Whatever else an action is given, it is refused for its name or for its dialect. -/
def Refused (n : String) (dialect : Value) : Prop :=
  n ∉ Misconfiguration.knownActions ∨ n = "Database.query" ∧ ¬KnownDialect dialect

def refusal (n : String) (dialect : Value) : Misconfiguration :=
  if n ∈ Misconfiguration.knownActions then .unknownDialect dialect else .unknownAction (.text n)

theorem build_of_refused {n : String} {es : Entries}
    (h : Refused n (HttpCall.parameter es "dialect")) :
    build (.text n) (.object es) =
      .error (.misconfigured (refusal n (HttpCall.parameter es "dialect"))) := by
  rcases h with h | ⟨rfl, h⟩
  · have hn : recipe? (.text n) = none := ofName?_eq_none_iff.2 h
    simp [build, hn, refusal, h]
  · have hn : recipe? (.text "Database.query") = some .query := ofName?_eq_query.2 rfl
    have hknown : "Database.query" ∈ Misconfiguration.knownActions := by decide
    simp [build, hn, Recipe.build, mapOf_object, bind, Except.bind, dialect?_eq_none_iff.2 h,
      refusal, hknown]
    rfl

theorem build_of_not_refused {n : String} {es : Entries}
    (h : ¬Refused n (HttpCall.parameter es "dialect")) :
    ∃ a, build (.text n) (.object es) = .ok a := by
  simp only [Refused, not_or, Decidable.not_not, not_and] at h
  obtain ⟨hknown, hdialect⟩ := h
  cases hr : Recipe.ofName? n with
  | none => exact absurd hknown (ofName?_eq_none_iff.1 hr)
  | some r =>
    have hn : recipe? (.text n) = some r := hr
    simp only [build, hn]
    cases r with
    | request => exact ⟨_, by simp only [Recipe.build, parametersOf_object]; rfl⟩
    | generate => exact ⟨_, by simp only [Recipe.build, parametersOf_object]; rfl⟩
    | method m => exact ⟨_, by simp only [Recipe.build, mapOf_object]; rfl⟩
    | query =>
      have hd := hdialect (ofName?_eq_query.1 hr)
      cases hv : dialect? (HttpCall.parameter es "dialect") with
      | none => exact absurd hd (dialect?_eq_none_iff.1 hv)
      | some d =>
        exact ⟨.database d es, by simp [Recipe.build, mapOf_object, bind, Except.bind, hv]; rfl⟩

end Action

def Wire.TestStep.step (s : Wire.TestStep) : Step := ⟨.text s.action, .object s.parameters⟩

def Wire.TestStep.dialect (c : Context) (s : Wire.TestStep) : Value :=
  Placeholder.substitute c (Action.HttpCall.parameter s.parameters "dialect")

theorem parameter_substitute (c : Context) (es : Entries) (k : String) :
    Action.HttpCall.parameter (es.map fun e => (e.1, Placeholder.substitute c e.2)) k =
      Placeholder.substitute c (Action.HttpCall.parameter es k) := by
  unfold Action.HttpCall.parameter
  rw [Placeholder.get?_map (Placeholder.substitute c) es k]
  cases Entries.get? es k <;> rfl

namespace Test

/-- No action has the name, or a query names a dialect that is neither known nor left open. -/
def Rejected (c : Context) (s : Wire.TestStep) : Prop :=
  s.action ∉ Misconfiguration.knownActions ∨
    s.action = "Database.query" ∧ unfilled (s.dialect c) = false ∧ ¬KnownDialect (s.dialect c)

instance (c : Context) (s : Wire.TestStep) : Decidable (Rejected c s) :=
  inferInstanceAs (Decidable (_ ∨ _))

theorem Rejected.refused {c : Context} {s : Wire.TestStep} (h : Rejected c s) :
    Action.Refused s.action (s.dialect c) :=
  h.imp_right fun h => ⟨h.1, h.2.2⟩

theorem substitute_parameters (c : Context) (s : Wire.TestStep) :
    ∃ es, Placeholder.substitute c s.step.parameters = .object es ∧
      Action.HttpCall.parameter es "dialect" = s.dialect c :=
  ⟨_, Placeholder.substitute_object c _, parameter_substitute c _ _⟩

theorem validateStep_of_rejected {c : Context} {s : Wire.TestStep} (h : Rejected c s) :
    validateStep c s.step = .error (.misconfigured (Action.refusal s.action (s.dialect c))) := by
  obtain ⟨es, hes, hd⟩ := substitute_parameters c s
  have hbuild : Action.build (.text s.action) (.object es) =
      .error (.misconfigured (Action.refusal s.action (Action.HttpCall.parameter es "dialect"))) :=
    Action.build_of_refused (hd ▸ h.refused)
  -- the check is put off for an open dialect only, and then a query is not refused
  have hdeferred : deferred s.step (.object es) = .ok false := by
    unfold deferred
    rcases h with h | ⟨-, h, -⟩
    · have hn : Action.recipe? s.step.action = none := Action.ofName?_eq_none_iff.2 h
      simp [hn]
    · split
      · simp [dialectOf, Except.map, hd, h]
      · rfl
  simp only [validateStep, hes, hdeferred]
  change (Action.build (.text s.action) (.object es) >>= fun _ => pure ()) = _
  rw [hbuild, hd]
  rfl

theorem validateStep_of_not_rejected {c : Context} {s : Wire.TestStep} (h : ¬Rejected c s) :
    validateStep c s.step = .ok () := by
  obtain ⟨es, hes, hd⟩ := substitute_parameters c s
  have hknown : s.action ∈ Misconfiguration.knownActions :=
    Decidable.byContradiction fun hn => h (.inl hn)
  have hsome : (Action.recipe? s.step.action).isSome = true := by
    rw [Option.isSome_iff_ne_none]
    exact fun hn => Action.ofName?_eq_none_iff.1 hn hknown
  have hdeferred : deferred s.step (.object es) = .ok (unfilled (s.dialect c)) := by
    simp [deferred, hsome, dialectOf, Except.map, hd]
  simp only [validateStep, hes, hdeferred]
  cases hopen : unfilled (s.dialect c) with
  | true => rfl
  | false =>
    have hnot : ¬Action.Refused s.action (Action.HttpCall.parameter es "dialect") := by
      rw [hd]
      rintro (hn | ⟨hq, hn⟩)
      · exact hn hknown
      · exact h (.inr ⟨hq, hopen, hn⟩)
    obtain ⟨a, ha⟩ := Action.build_of_not_refused hnot
    change (Action.build (.text s.action) (.object es) >>= fun _ => pure ()) = _
    rw [ha]
    rfl

theorem validate_of_not_rejected {c : Context} {steps : List Wire.TestStep}
    (h : ∀ s ∈ steps, ¬Rejected c s) : validate c (steps.map (·.step)) = .ok () := by
  induction steps with
  | nil => rfl
  | cons s steps ih =>
    have hs := validateStep_of_not_rejected (h s (by simp))
    have hrest := ih fun s' hs' => h s' (by simp [hs'])
    change (validateStep c s.step >>= fun _ => validate c (steps.map (·.step))) = _
    rw [hs, hrest]
    rfl

/-- The first step that is refused is the one that is told of. -/
theorem validate_of_rejected {c : Context} {before : List Wire.TestStep} {s : Wire.TestStep}
    (after : List Wire.TestStep) (h : ∀ s' ∈ before, ¬Rejected c s') (hs : Rejected c s) :
    validate c ((before ++ s :: after).map (·.step)) =
      .error (.misconfigured (Action.refusal s.action (s.dialect c))) := by
  induction before with
  | nil =>
    change (validateStep c s.step >>= fun _ => validate c (after.map (·.step))) = _
    rw [validateStep_of_rejected hs]
    rfl
  | cons s' before ih =>
    have hs' := validateStep_of_not_rejected (h s' (by simp))
    have hrest := ih fun s'' hs'' => h s'' (by simp [hs''])
    change (validateStep c s'.step >>= fun _ =>
      validate c ((before ++ s :: after).map (·.step))) = _
    rw [hs', hrest]
    rfl

theorem exists_first_rejected {c : Context} {steps : List Wire.TestStep}
    (h : ∃ s ∈ steps, Rejected c s) :
    ∃ before s after, steps = before ++ s :: after ∧ (∀ s' ∈ before, ¬Rejected c s') ∧
      Rejected c s := by
  induction steps with
  | nil => simp at h
  | cons s steps ih =>
    by_cases hs : Rejected c s
    · exact ⟨[], s, steps, rfl, by simp, hs⟩
    · obtain ⟨before, s', after, rfl, hbefore, hs'⟩ := ih (by simpa [hs] using h)
      exact ⟨s :: before, s', after, rfl, by simpa [hs] using hbefore, hs'⟩

end Test
end TestWorker
