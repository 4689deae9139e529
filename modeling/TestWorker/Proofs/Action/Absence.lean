import TestWorker.Action
import TestWorker.Proofs.Entries
import TestWorker.Proofs.Placeholder.Strict
import TestWorker.Proofs.Test.Validation

namespace TestWorker

theorem Value.eq_null_of_isNull {v : Value} (h : v.isNull = true) : v = .null := by
  cases v with
  | null => rfl
  | _ => cases h

namespace Action

namespace HttpCall

/-- What a call is to send: `data`, or `body` where no `data` is given. -/
def content (p : Entries) : Value :=
  ((Entries.get? p "data").orElse fun _ => Entries.get? p "body").getD .null

/-- Parameters of which every action reads the same. -/
structure ReadAlike (p q : Entries) : Prop where
  parameter : ∀ name, parameter p name = parameter q name
  content : content p = content q

variable {p q : Entries}

theorem ReadAlike.methodOf (h : ReadAlike p q) : methodOf p = methodOf q := by
  unfold HttpCall.methodOf
  rw [h.parameter]

theorem ReadAlike.ofParameters (h : ReadAlike p q) : ofParameters p = ofParameters q := by
  have hcontent := h.content
  unfold HttpCall.content at hcontent
  unfold HttpCall.ofParameters
  rw [h.parameter, h.parameter, h.parameter, h.methodOf, hcontent]

theorem ReadAlike.put (h : ReadAlike p q) (m : Value) :
    ReadAlike (Entries.put p "method" m) (Entries.put q "method" m) := by
  constructor
  · intro name
    have hname := h.parameter name
    unfold HttpCall.parameter at hname ⊢
    rw [Entries.get?_put, Entries.get?_put]
    split
    · rfl
    · exact hname
  · have hcontent := h.content
    unfold HttpCall.content at hcontent ⊢
    simpa [Entries.get?_put] using hcontent

/-- A name under which there is nothing but null may as well be left out; for `data`, if that brings
up no `body`. -/
theorem readAlike_without {k : String} (hnull : ∀ v, (k, v) ∈ p → v = .null)
    (hbody : k = "data" → HttpCall.parameter p "body" = .null) :
    ReadAlike p (Entries.without p [k]) := by
  have hk : HttpCall.parameter p k = .null := by
    unfold HttpCall.parameter
    cases h : Entries.get? p k with
    | none => rfl
    | some v => exact hnull v (Entries.mem_of_get? h)
  constructor
  · intro name
    by_cases hname : name = k
    · subst hname
      rw [hk, HttpCall.parameter, Entries.get?_without_of_mem p (by simp)]
      rfl
    · unfold HttpCall.parameter
      rw [Entries.get?_without_of_not_mem p (by simpa using hname)]
  -- of the content `data` is looked for first, so only without it does a `body` come up
  · unfold HttpCall.content
    by_cases hdata : k = "data"
    · have hrest := hbody hdata
      subst hdata
      rw [Entries.get?_without_of_mem p (by simp), Entries.get?_without_of_not_mem p (by simp)]
      unfold HttpCall.parameter at hk hrest
      cases h : Entries.get? p "data" with
      | none => rfl
      | some v =>
        rw [h] at hk
        exact hk.trans hrest.symm
    · rw [Entries.get?_without_of_not_mem p (by simpa using Ne.symm hdata)]
      by_cases hb : k = "body"
      · subst hb
        rw [Entries.get?_without_of_mem p (by simp)]
        unfold HttpCall.parameter at hk
        cases Entries.get? p "data" with
        | none => exact hk
        | some v => rfl
      · rw [Entries.get?_without_of_not_mem p (by simpa using Ne.symm hb)]

end HttpCall

open HttpCall (ReadAlike)
variable {p q : Entries}

theorem attemptHttp_congr (h : ReadAlike p q) (name : String) (c : Web.Client) :
    attemptHttp name c p = attemptHttp name c q := by
  funext started
  unfold attemptHttp
  rw [h.parameter, h.methodOf, h.ofParameters]

theorem attemptDatabase_congr (h : ReadAlike p q) (d : Database.Dialect) (name : String) :
    attemptDatabase d name p = attemptDatabase d name q := by
  funext started
  unfold attemptDatabase
  simp only [h.parameter]

theorem attemptGenerate_congr (h : ReadAlike p q) (ps : List Provider) (name : String) :
    attemptGenerate ps name p = attemptGenerate ps name q := by
  funext started
  unfold attemptGenerate
  rw [h.parameter, h.parameter, h.parameter]

/-- Actions that do the same wherever they run. -/
def RunAlike (a a' : Action) : Prop := ∀ e c, a.run e c = a'.run e c

theorem runAlike_http (h : ReadAlike p q) (name : String) :
    RunAlike (.http name p) (.http name q) := by
  intro e c
  unfold run
  congr 1
  funext started
  exact congrArg Work.of (congrFun (attemptHttp_congr h name e.client) started)

theorem runAlike_database (h : ReadAlike p q) (d : Database.Dialect) :
    RunAlike (.database d p) (.database d q) := by
  intro e c
  unfold run
  congr 1
  exact attemptDatabase_congr h d _

theorem runAlike_generate (h : ReadAlike p q) : RunAlike (.generate p) (.generate q) := by
  intro e c
  unfold run
  congr 1
  exact attemptGenerate_congr h e.providers _

/-- Two results of building an action: one fault, or actions that do the same. -/
def BuiltAlike : Except Fault Action → Except Fault Action → Prop
  | .ok a, .ok a' => RunAlike a a'
  | .error f, .error f' => f = f'
  | _, _ => False

theorem BuiltAlike.refl (r : Except Fault Action) : BuiltAlike r r := by
  cases r with
  | ok a => exact fun _ _ => rfl
  | error f => exact rfl

theorem build_alike (h : ReadAlike p q) (name : Value) :
    BuiltAlike (build name (.object p)) (build name (.object q)) := by
  unfold build
  cases recipe? name with
  | none => exact .refl _
  | some r =>
    cases r with
    | request =>
      simp only [Recipe.build, parametersOf_object]
      exact runAlike_http h _
    | method m =>
      simp only [Recipe.build, mapOf_object]
      exact runAlike_http (h.put _) _
    | generate =>
      simp only [Recipe.build, parametersOf_object]
      exact runAlike_generate h
    -- the one recipe that looks at a parameter before it builds
    | query =>
      simp only [Recipe.build, mapOf_object, bind, Except.bind]
      rw [h.parameter]
      cases dialect? (HttpCall.parameter q "dialect") with
      | none => exact rfl
      | some d => exact runAlike_database h d

end Action

namespace Placeholder

/-- A value is filled in as null if it is null, or a text of one token, bound to null. -/
theorem substitute_eq_null {c : Context} {v : Value} (h : substitute c v = .null) :
    v = .null ∨ ∃ s t, v = .text s ∧ segments s = [.token t] ∧ c.get? t.name = some .null := by
  cases v with
  | null => exact .inl rfl
  | text s =>
    rw [substitute_text] at h
    unfold fill at h
    split at h
    · next t ht =>
      cases hv : c.get? t.name with
      | none => simp [hv] at h
      | some w =>
        rw [hv, Option.getD_some] at h
        exact .inr ⟨s, t, rfl, ht, h ▸ hv⟩
    · cases h
  | _ => cases h

theorem nothing_missing_of_null {c : Context} {v : Value} (h : substitute c v = .null) :
    (documentTokens v).find? (unbound c) = none := by
  rcases substitute_eq_null h with rfl | ⟨s, t, rfl, hs, ht⟩
  · rfl
  · have hunbound : unbound c t = false := by simp [unbound, ht]
    simp [documentTokens, leafTexts, tokens_eq, hs, Segment.token?, hunbound]

theorem documentTokens_cons (k : String) (v : Value) (es : Entries) :
    documentTokens (.object ((k, v) :: es)) = documentTokens v ++ documentTokens (.object es) := by
  simp [documentTokens, leafTexts, entryTexts]

theorem missing_without {c : Context} {es : Entries} {k : String}
    (h : ∀ v, (k, v) ∈ es → substitute c v = .null) :
    (documentTokens (.object (Entries.without es [k]))).find? (unbound c) =
      (documentTokens (.object es)).find? (unbound c) := by
  induction es with
  | nil => rfl
  | cons e es ih =>
    obtain ⟨k', v⟩ := e
    have hrest := ih fun v hv => h v (List.mem_cons_of_mem _ hv)
    rw [documentTokens_cons, List.find?_append]
    by_cases hk : k' = k
    · subst hk
      rw [nothing_missing_of_null (h v (by simp)), Option.none_or, ← hrest]
      simp [Entries.without]
    · have hcons : Entries.without ((k', v) :: es) [k] = (k', v) :: Entries.without es [k] := by
        simp [Entries.without, hk]
      rw [hcons, documentTokens_cons, List.find?_append, hrest]

/-- With a name left out under which everything comes to null, strict or not, the same token is
missing, or the same entries are filled in but for that name. -/
theorem resolve_without (strict : Bool) {c : Context} {es : Entries}
    {k : String} (h : ∀ v, (k, v) ∈ es → substitute c v = .null) :
    (∃ f, resolve strict c (.object es) = .error f ∧
        resolve strict c (.object (Entries.without es [k])) = .error f) ∨
      ∃ p, resolve strict c (.object es) = .ok (.object p) ∧
        resolve strict c (.object (Entries.without es [k])) =
          .ok (.object (Entries.without p [k])) ∧
        substitute c (.object es) = .object p := by
  have hes : substitute c (.object (Entries.without es [k])) =
      .object (Entries.without (es.map fun e => (e.1, substitute c e.2)) [k]) := by
    rw [substitute_object, Entries.map_without]
  cases strict with
  | false =>
    exact .inr ⟨_, congrArg _ (substitute_object c es), congrArg _ hes, substitute_object c es⟩
  | true =>
    have hstrict : ∀ v, resolve true c v = substituteStrict c v := fun _ => rfl
    rw [hstrict, hstrict, substituteStrict_eq, substituteStrict_eq,
      missing_without h, hes, substitute_object]
    cases (documentTokens (.object es)).find? (unbound c) with
    | none => exact .inr ⟨_, rfl, rfl, rfl⟩
    | some t => exact .inl ⟨_, rfl, rfl⟩

end Placeholder

namespace Action
open HttpCall (ReadAlike)

/-- Filled in with these variables, all that is given under a name is null. Where that is `data`,
there is no `body` either. -/
structure Void (c : Context) (es : Entries) (k : String) : Prop where
  null : ∀ v, (k, v) ∈ es → Placeholder.substitute c v = .null
  body : k = "data" → Placeholder.substitute c (HttpCall.parameter es "body") = .null

theorem Void.readAlike {c : Context} {es p : Entries} {k : String}
    (h : Void c es k) (hp : Placeholder.substitute c (.object es) = .object p) :
    ReadAlike p (Entries.without p [k]) := by
  rw [Placeholder.substitute_object] at hp
  obtain rfl := Value.object.inj hp
  apply HttpCall.readAlike_without
  · intro v hv
    obtain ⟨⟨k', w⟩, hw, he⟩ := List.mem_map.1 hv
    obtain ⟨rfl, rfl⟩ := Prod.mk.inj he
    exact h.null w hw
  · intro hk
    rw [parameter_substitute]
    exact h.body hk

end Action
end TestWorker
