import TestWorker.Proofs.Action.Evaluation
import TestWorker.Proofs.Context
import TestWorker.Proofs.Test.Validation
import TestWorker.Rehearsal

namespace TestWorker.Action
variable {σ : Type}

/-- The actions that may store what they come to. -/
def storing : List String := ["Database.query", "Faker.generate"]

/-- An action is built to send a request, or it keeps its parameters and may store. -/
theorem http_or_parameters_of_build {n : String} {p : Entries} {a : Action}
    (h : build (.text n) (.object p) = .ok a) :
    (∃ m q, a = .http m q) ∨ a.parameters = p ∧ n ∈ storing := by
  have hname : n = a.name := Value.text.inj (name_of_build h).1
  rw [hname]
  unfold build at h
  split at h
  · rename_i r hr
    cases r with
    | request =>
      obtain ⟨es, -, ha⟩ := Except.bind_eq_ok.1 h
      cases ha
      exact .inl ⟨_, _, rfl⟩
    | method m =>
      obtain ⟨es, -, ha⟩ := Except.bind_eq_ok.1 h
      cases ha
      exact .inl ⟨_, _, rfl⟩
    | query =>
      obtain ⟨es, hes, ha⟩ := Except.bind_eq_ok.1 h
      rw [mapOf_object] at hes
      cases hes
      dsimp only at ha
      split at ha
      · cases ha
        exact .inr ⟨rfl, by simp [storing, name]⟩
      · cases ha
    | generate =>
      obtain ⟨es, hes, ha⟩ := Except.bind_eq_ok.1 h
      rw [parametersOf_object] at hes
      cases hes
      cases ha
      exact .inr ⟨rfl, by simp [storing, name]⟩
  · cases h

theorem http_run_settles (e : Equipment) (n : String) (p q : Entries) (c : Context) :
    ((http n p).run e c).Yields (Settles n q c) :=
  undertake_settles fun started => attemptHttp_keeps n e.client p q c started

theorem Settles.eq_of_nil {n : String} {c : Context} {x : Outcome × Context}
    (h : Settles n [] c x) :
    x.2 = c := by
  -- without a name for it, nothing is stored
  rcases h.eq_or_store with hc | ⟨v, hv⟩
  · exact hc
  · exact (Except.ok.inj hv).symm

/-- What was generated and stored has no text, and that is what the report tells. -/
def Untold (n : String) (key : Value) (c c' : Context) (r : Report) : Prop :=
  n = "Faker.generate" ∧ key.truthy = true ∧ ∃ v e, store c key v = .ok c' ∧
    v.excess? Value.nestingLimit = some e ∧ r.summary = told (.unwritable e)

theorem Left.of_failure {n : String} {p : Entries} {c c' : Context}
    {r : Report} (h : Left n p c r c') (hfail : r.success = false) :
    c' = c ∨ Untold n (HttpCall.parameter p "variable") c c' r := by
  cases h with
  | unchanged => exact .inl rfl
  | stored _ hsuccess =>
    rw [hfail] at hsuccess
    cases hsuccess
  | untold hgenerate hv hexcess _ hsummary =>
    rcases Context.eq_or_changedAt_of_store hv with hc | ⟨htruthy, -⟩
    · exact .inl hc
    · exact .inr ⟨hgenerate, htruthy, _, _, hv, hexcess, hsummary⟩

/-- What an evaluation leaves of the variables, by the one report that it makes. -/
structure Atomic (n : String) (key : Value) (c c' : Context) (r : Report) : Prop where
  named : r.action = n
  timed : r.time.AtLeastZero
  failure : r.success = false → c' = c ∨ Untold n key c c' r
  success : r.success = true → c' = c ∨ n ∈ storing ∧ key.truthy = true ∧ c.ChangedAt key c'
  others : ∀ name, key ≠ .text name → c'.get? name = c.get? name

theorem Settles.atomic {n : String} {p : Entries} {c : Context} {x : Outcome × Context}
    (h : Settles n p c x) (hn : n ∈ storing ∨ x.2 = c) :
    ∃ r, x.1.reports = [r] ∧ Atomic n (HttpCall.parameter p "variable") c x.2 r := by
  obtain ⟨out, c'⟩ := x
  obtain ⟨r, hr, hname, htime, hleft⟩ := h
  have hothers : ∀ name, HttpCall.parameter p "variable" ≠ .text name →
      c'.get? name = c.get? name := by
    intro name hkey
    rcases Settles.eq_or_store ⟨r, hr, hname, htime, hleft⟩ with hc | ⟨v, hv⟩
    · exact congrArg (Context.get? · name) hc
    · exact Context.get?_of_store hv hkey
  refine ⟨r, hr, hname, htime, hleft.of_failure, fun hsuccess => ?_, hothers⟩
  cases hleft with
  | unchanged => exact .inl rfl
  | stored hv _ =>
    rcases hn with hn | hc
    · exact (Context.eq_or_changedAt_of_store hv).imp id fun h => ⟨hn, h⟩
    · exact .inl hc
  | untold _ _ _ hfail _ =>
    rw [hsuccess] at hfail
    cases hfail

/-- Under every known name an action is built and comes to an outcome, whatever its parameters, the
variables and the surroundings are. It makes one report; a success changes at most the entry that
`variable` names, and a failure nothing, unless a value was generated and stored of which there is
no text for the report. -/
theorem evaluation_atomic {n : String} {p : Entries} (hn : n ∈ Misconfiguration.knownActions)
    (hd : n = "Database.query" → KnownDialect (HttpCall.parameter p "dialect")) :
    ∃ a, build (.text n) (.object p) = .ok a ∧
      ∀ (e : Equipment) (c : Context) (o : Outside σ) (now : Instant) (s : σ),
        ∃ out c' later s', (a.run e c).run o now s = ((out, c'), later, s') ∧
          ∃ r, out.reports = [r] ∧ Atomic n (HttpCall.parameter p "variable") c c' r := by
  have hrefused : ¬Refused n (HttpCall.parameter p "dialect") := by
    rintro (h | ⟨h, hdialect⟩)
    · exact h hn
    · exact hdialect (hd h)
  obtain ⟨a, ha⟩ := build_of_not_refused hrefused
  refine ⟨a, ha, fun e c o now s => ?_⟩
  have hname : a.name = n := (Value.text.inj (name_of_build ha).1).symm
  refine ⟨_, _, _, _, rfl, ?_⟩
  rcases http_or_parameters_of_build ha with ⟨m, q, rfl⟩ | ⟨hp, hstoring⟩
  -- as an HTTP action stores nothing, it settles with any parameters, and with none
  · have hcontext := ((http_run_settles e m q [] c).run o now s).eq_of_nil
    have hsettles := (http_run_settles e m q p c).run o now s
    rw [show m = n from hname] at hsettles hcontext ⊢
    exact hsettles.atomic (.inr hcontext)
  · have hsettles := (run_settles e a c).run o now s
    rw [hname, hp] at hsettles
    exact hsettles.atomic (.inl hstoring)

/-- A number in so many lists. -/
def inLists : Nat → Value
  | 0 => .int 1
  | n + 1 => .list [inLists n]

def nestingProvider : Provider :=
  Provider.english "python" [("pylist", .generator (.ok (inLists 20000)))]

def nestedParameters : Entries :=
  [("category", .text "python"), ("function", .text "pylist"), ("variable", .text "v")]

/-- The list is nested too deep for a text, and stays under `v` although the report is a failure. -/
theorem stored_although_failed :
    ∃ (a : Action) (out : Outcome) (c' : Context) (r : Report)
      (later : Instant) (world : Rehearsal),
      build (.text "Faker.generate") (.object nestedParameters) = .ok a ∧
      (a.run ⟨⟨some .targets, false⟩, [nestingProvider]⟩
          {}).run Rehearsal.outside 0 {} = ((out, c'), later, world) ∧
        out.reports = [r] ∧ r.success = false ∧ c' ≠ {} := by
  obtain ⟨⟨⟨out, c'⟩, later, world⟩, hrun, hreports, hkeys⟩ :
      ∃ w, ((generate nestedParameters).run
          ⟨⟨some .targets, false⟩, [nestingProvider]⟩
          {}).run Rehearsal.outside 0 {} = w ∧ w.1.1.reports.map (·.success) = [false] ∧
        w.1.2.keys.map (·.literal) = ["'v'"] :=
    ⟨_, rfl, by decide +kernel, by decide +kernel⟩
  obtain ⟨r, hr, hfail⟩ := List.map_eq_singleton_iff.1 hreports
  refine ⟨_, out, c', r, later, world, ?_, hrun, hr, hfail, ?_⟩
  · exact congrArg (fun r => r >>= fun es => pure (Action.generate es))
      (parametersOf_object nestedParameters)
  · rintro rfl
    cases hkeys

/-- A name is made, and the list that should name its place cannot be a key. -/
def unstorable : Entries :=
  [("category", .text "person"), ("function", .text "first_name"), ("variable", .list [.int 1])]

theorem evaluation_atomic_unstorable :
    "Faker.generate" ∈ Misconfiguration.knownActions ∧
    ∃ (out : Outcome) (c' : Context) (r : Report) (later : Instant) (world : Rehearsal),
      ((generate unstorable).run
          ⟨⟨some .targets, false⟩, [Provider.english "person" [Provider.sample "first_name" "Ann"]]⟩
          ⟨[(.text "a", .int 1)]⟩).run Rehearsal.outside 0 {} = ((out, c'), later, world) ∧
        out.reports = [r] ∧ r.success = false ∧ c' = ⟨[(.text "a", .int 1)]⟩ := by
  refine ⟨by decide, ?_⟩
  obtain ⟨a, ha, h⟩ := evaluation_atomic (σ := Rehearsal) (n := "Faker.generate") (p := unstorable)
    (by decide) (by decide)
  obtain rfl : generate unstorable = a := Except.ok.inj ha
  obtain ⟨out, c', later, world, hrun, r, hr, hatomic⟩ := h
    ⟨⟨some .targets, false⟩, [Provider.english "person" [Provider.sample "first_name" "Ann"]]⟩
    ⟨[(.text "a", .int 1)]⟩ Rehearsal.outside 0 {}
  have hfails : (((generate unstorable).run
      ⟨⟨some .targets, false⟩, [Provider.english "person" [Provider.sample "first_name" "Ann"]]⟩
      ⟨[(.text "a", .int 1)]⟩).run Rehearsal.outside 0 {}).1.1.reports.map
          (·.success) = [false] := by
    decide +kernel
  rw [hrun] at hfails
  have hfail : r.success = false := by simpa [hr] using hfails
  refine ⟨out, c', r, later, world, hrun, hr, hfail, ?_⟩
  rcases hatomic.failure hfail with hc | ⟨-, -, v, e, hstored, -⟩
  · exact hc
  · cases hstored

end TestWorker.Action
