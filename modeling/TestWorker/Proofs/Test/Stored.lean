import TestWorker.Proofs.Action.Sending
import TestWorker.Proofs.Action.Stored
import TestWorker.Proofs.Test.Intake

namespace TestWorker

namespace Action
open HttpCall (content)

/-- The name of the action may settle the method; what is to be sent is left to the parameters. -/
theorem content_of_build {name : Value} {q p : Entries} {n : String}
    (h : build name (.object q) = .ok (.http n p)) : content p = content q := by
  unfold build at h
  cases hr : recipe? name with
  | none =>
    rw [hr] at h
    cases h
  | some r =>
    rw [hr] at h
    cases r with
    | request =>
      simp only [Recipe.build, parametersOf_object] at h
      cases h
      rfl
    | method m =>
      simp only [Recipe.build, mapOf_object] at h
      cases h
      unfold content
      simp [Entries.get?_put]
    | query =>
      obtain ⟨es, -, h⟩ := Except.bind_eq_ok.1 h
      dsimp only at h
      split at h <;> cases h
    | generate =>
      obtain ⟨es, -, h⟩ := Except.bind_eq_ok.1 h
      cases h

theorem content_substitute {c : Context} {es : Entries} {data : Value}
    (h : Entries.get? es "data" = some data) :
    content (es.map fun e => (e.1, Placeholder.substitute c e.2)) =
      Placeholder.substitute c data := by
  unfold content
  rw [Placeholder.get?_map (Placeholder.substitute c) es "data", h]
  rfl

theorem isTree_substitute {c : Context} {data : Value} (h : HttpCall.IsTree data) :
    HttpCall.IsTree (Placeholder.substitute c data) := by
  cases data with
  | list vs => rw [Placeholder.substitute_list]; trivial
  | object es => rw [Placeholder.substitute_object]; trivial
  | _ => cases h

end Action

namespace Test
open TestWorker.Action (HttpCall.Ready HttpCall.IsTree HttpCall.content)
open Json (Sayable)
open Placeholder (leafTexts segments whole)
variable {σ : Type} {e : Equipment} {strict : Bool} {o : Outside σ}

/-- The value that a step comes to: that of its call of a generator, or the rows of its query. -/
def Evaluation.Produces (e : Equipment) (o : Outside σ) (u : Evaluation σ) (value : Value) : Prop :=
  match u.action with
  | .generate p => Action.Generated e.providers p (draws (u.effects e o)) value
  | .database _ _ => Action.Queried value u.outcome.response
  | .http _ _ => False

/-- The step of an evaluation was filled in and built, and this is its run. -/
structure Evaluation.Ran (e : Equipment) (strict : Bool) (o : Outside σ) (v : Evaluation σ) :
    Prop where
  built : ∃ p, Placeholder.resolve strict v.before.context v.step.parameters = .ok p ∧
    Action.build v.step.action p = .ok v.action
  run : (v.action.run e v.before.context).run o v.before.instant v.before.state =
    ((v.outcome, v.after.context), v.after.instant, v.after.state)

theorem Evaluations.ran {steps : List Step} {x z : Scene σ} {vs : List (Evaluation σ)}
    (h : Evaluations e strict o steps x vs z) : ∀ v ∈ vs, v.Ran e strict o := by
  induction h with
  | nil => simp
  | cons hp hb hrun _ ih => exact List.forall_mem_cons.2 ⟨⟨⟨_, hp, hb⟩, hrun⟩, ih⟩

/-- A success stores what it produces under the name that it is told. -/
theorem Evaluation.Ran.stores {u : Evaluation σ} (h : u.Ran e strict o)
    (hu : u.outcome.success = true) (haction : ∀ n p, u.action ≠ .http n p) :
    ∃ value, u.Produces e o value ∧
      Action.store u.before.context u.variable value = .ok u.after.context := by
  have hrun := h.run
  unfold Evaluation.Produces Evaluation.variable Evaluation.effects
  cases ha : u.action with
  | http n p => exact absurd ha (haction n p)
  | generate p =>
    rw [ha] at hrun
    have hstored :=
      (Action.generate_stores e p u.before.context).run o u.before.instant u.before.state
    rw [hrun] at hstored
    exact hstored hu
  | database d p =>
    rw [ha] at hrun
    have hstored :=
      (Action.database_stores e d p u.before.context).run o u.before.instant u.before.state
    rw [hrun] at hstored
    exact hstored hu

/-- The first request of the step has the JSON text of the data as its body. -/
def Evaluation.SendsJson (e : Equipment) (o : Outside σ) (v : Evaluation σ) (data : Value) : Prop :=
  ∃ r answer rest, exchanges (v.effects e o) = (r, answer) :: rest ∧
    r.body = Text.utf8Bytes (Json.text Json.compact data)

/-- The step sends nothing and fails, for want of a JSON text. -/
def Evaluation.RefusesJson (e : Equipment) (o : Outside σ) (v : Evaluation σ) : Prop :=
  exchanges (v.effects e o) = [] ∧ ∃ r t, v.outcome.reports = [{
    action := v.action.name, success := false, time := t
    summary := (Fault.notJson r).kind ++ ": " ++ (Fault.notJson r).message
    details := some (Fault.notJson r).literal }]

theorem Evaluation.Ran.sends {v : Evaluation σ} (h : v.Ran e strict o)
    {n : String} {p es : Entries} {data : Value} (haction : v.action = .http n p)
    (hv : v.step.parameters = .object es) (hdata : Entries.get? es "data" = some data)
    (htree : HttpCall.IsTree data) (hready : HttpCall.Ready p) :
    (Sayable (Placeholder.substitute v.before.context data) →
      v.SendsJson e o (Placeholder.substitute v.before.context data)) ∧
    (¬Sayable (Placeholder.substitute v.before.context data) → v.RefusesJson e o) := by
  obtain ⟨q, hq, hb⟩ := h.built
  have hsub := Placeholder.resolve_eq_ok hq
  rw [hv, Placeholder.substitute_object] at hsub
  rw [haction, hsub] at hb
  have hcontent : HttpCall.content p = Placeholder.substitute v.before.context data :=
    (Action.content_of_build hb).trans (Action.content_substitute hdata)
  rw [← hcontent]
  have hp : HttpCall.IsTree (HttpCall.content p) := hcontent ▸ Action.isTree_substitute htree
  have hrun := h.run
  unfold Evaluation.SendsJson Evaluation.RefusesJson Evaluation.effects
  rw [haction] at hrun ⊢
  constructor
  · intro hs
    obtain ⟨r, answer, rest, hrest, -, hbody⟩ :=
      (Action.http_opens hready hp hs v.before.context).run o v.before.instant v.before.state
    exact ⟨r, answer, rest, hrest, hbody⟩
  · intro hs
    obtain ⟨hasks, hyields⟩ := Action.http_refused (e := e) (n := n) hready hp hs v.before.context
    have hreports := (hyields.run o v.before.instant v.before.state).2
    rw [hrun] at hreports
    exact ⟨hasks.exchanges_eq_nil o _ _, hreports⟩

/-- JSON can say the data as it is given, and all that stands for its placeholders but for one
key. -/
def SaysRest (c : Context) (k : String) (data : Value) : Prop :=
  Sayable data ∧ ∀ s ∈ leafTexts data, ∀ t w, segments s = [.token t] → t.name ≠ k →
    c.get? t.name = some w → Sayable w

theorem sayable_iff_saysRest {c : Context} {k : String} {data value : Value} (hk : k ≠ "")
    (hkey : ∀ ch ∈ k.toList, Placeholder.isKeyChar ch = true) (hin : whole k ∈ leafTexts data)
    (hvalue : c.get? k = some value) :
    Sayable (Placeholder.substitute c data) ↔ Sayable value ∧ SaysRest c k data := by
  have hname : (⟨[], k.toList, []⟩ : Placeholder.Token).name = k := String.ofList_toList
  rw [Placeholder.sayable_substitute]
  -- the key is one of the tokens that stand for a whole text; the others are the rest
  constructor
  · rintro ⟨hdata, hall⟩
    refine ⟨hall _ hin _ value (Placeholder.segments_whole hk hkey)
      (by rw [hname, hvalue]), hdata, ?_⟩
    intro s hs t w ht _ hw
    exact hall s hs t w ht hw
  · rintro ⟨hsayable, hdata, hall⟩
    refine ⟨hdata, ?_⟩
    intro s hs t w ht hw
    by_cases htk : t.name = k
    · rw [htk, hvalue] at hw
      cases hw
      exact hsayable
    · exact hall s hs t w ht htk hw

/-- What an action has stored under a key stands there for a later step, if no step between stores
under it, and comes into the step's data in the place of `{{key}}`. If JSON can say the stored value
and the rest of the data, the step sends its request with the JSON text of the data as its body;
otherwise it sends nothing and fails. Rows can be said unless a number in them is not finite. -/
theorem stored_sent_on {steps : List Step} {x z : Scene σ}
    {before between after : List (Evaluation σ)} {u v : Evaluation σ}
    {k n : String} {p es : Entries} {data : Value}
    (h : Evaluations e strict o steps x (before ++ u :: (between ++ v :: after)) z)
    (hu : u.outcome.success = true) (hstoring : ∀ n p, u.action ≠ .http n p)
    (hvariable : u.variable = .text k) (hk : k ≠ "")
    (hkey : ∀ ch ∈ k.toList, Placeholder.isKeyChar ch = true)
    (hbetween : ∀ m ∈ between, m.variable ≠ .text k) (haction : v.action = .http n p)
    (hv : v.step.parameters = .object es) (hdata : Entries.get? es "data" = some data)
    (htree : HttpCall.IsTree data) (hin : whole k ∈ leafTexts data) (hready : HttpCall.Ready p) :
    ∃ value, u.Produces e o value ∧ v.before.context.get? k = some value ∧
      (Sayable value ∧ SaysRest v.before.context k data →
        v.SendsJson e o (Placeholder.substitute v.before.context data)) ∧
      (¬(Sayable value ∧ SaysRest v.before.context k data) → v.RefusesJson e o) ∧
      ∀ answer : Database.ResultSet, value = .list answer.objects → (Sayable value ↔
        ∀ row, .object row ∈ answer.objects → ∀ column y, (column, .float y) ∈ row →
          y.isFinite = true) := by
  obtain ⟨value, hproduced, hstored⟩ := (h.ran u (by simp)).stores hu hstoring
  rw [hvariable] at hstored
  obtain ⟨-, -, hrest⟩ := h.around
  obtain ⟨hbetweens, -, -⟩ := hrest.around
  -- the steps between leave the key alone
  have hvalue : v.before.context.get? k = some value :=
    (hbetweens.get?_eq hbetween).trans (Context.get?_of_store_self hk hstored)
  have hsayable := sayable_iff_saysRest hk hkey hin hvalue
  obtain ⟨hsends, hrefuses⟩ := (h.ran v (by simp)).sends haction hv hdata htree hready
  rw [hsayable] at hsends hrefuses
  refine ⟨value, hproduced, hvalue, hsends, hrefuses, ?_⟩
  rintro answer rfl
  exact Database.sayable_objects

def datingParameters : Entries :=
  [("category", .text "date_time"), ("function", .text "date"), ("variable", .text "d")]

def datedData : Entries := [("x", .text (whole "d"))]

def datedEntries : Entries := [("url", .text "https://api.test/x"), ("data", .object datedData)]

def datedSteps : List Step :=
  [⟨.text "Faker.generate", .object datingParameters⟩, ⟨.text "Http.post", .object datedEntries⟩]

def datingEquipment (date : Value) : Equipment :=
  ⟨⟨some .targets, false⟩, [Provider.english "date_time" [("date", .generator (.ok date))]]⟩

def datedParameters (c : Context) : Entries :=
  Entries.put (datedEntries.map fun e => (e.1, Placeholder.substitute c e.2))
    "method" (.text "POST")

theorem build_dated (c : Context) :
    Action.build (.text "Http.post")
      (.object (datedEntries.map fun e => (e.1, Placeholder.substitute c e.2))) =
      .ok (.http "Http.post" (datedParameters c)) := by
  have hrecipe : Action.recipe? (.text "Http.post") = some (.method "POST") := by decide +kernel
  simp only [Action.build, hrecipe, Action.Recipe.build, Action.mapOf_object]
  rfl

def rehearse (e : Equipment) (s : Step) (a : Action) (x : Scene Rehearsal) : Evaluation Rehearsal :=
  let r := (a.run e x.context).run Rehearsal.outside x.instant x.state
  ⟨s, a, x, r.1.1, ⟨r.1.2, r.2.1, r.2.2⟩⟩

theorem ready_of_isOk {p : Entries} (hurl : (Action.HttpCall.parameter p "url").truthy = true)
    (h : (do
      let call ← Action.HttpCall.ofParameters p
      { call.draft (Action.HttpCall.parameter p "url") with content := .absent }.request []).isOk =
        true) :
    HttpCall.Ready p := by
  obtain ⟨r, hr⟩ := Except.exists_of_isOk h
  obtain ⟨call, hcall, hr⟩ := Except.bind_eq_ok.1 hr
  exact ⟨hurl, call, hcall, r, hr⟩

def dating (date : Value) : Evaluation Rehearsal :=
  rehearse (datingEquipment date) ⟨.text "Faker.generate", .object datingParameters⟩
    (.generate datingParameters) ⟨{}, 0, {}⟩

def dated (date : Value) : Evaluation Rehearsal :=
  rehearse (datingEquipment date) ⟨.text "Http.post", .object datedEntries⟩
    (.http "Http.post" (datedParameters (dating date).after.context)) (dating date).after

theorem evaluations_dated (date : Value) :
    Evaluations (datingEquipment date) false Rehearsal.outside datedSteps ⟨{}, 0, {}⟩
      [dating date, dated date] (dated date).after := by
  have hdating : Placeholder.resolve false {} (.object datingParameters) =
      .ok (.object datingParameters) := by
    cbv
  have hdated :
      Placeholder.resolve false (dating date).after.context (.object datedEntries) = .ok _ :=
    congrArg Except.ok (Placeholder.substitute_object _ datedEntries)
  exact .cons hdating (congrArg (fun r => r >>= fun es => pure (Action.generate es))
    (Action.parametersOf_object datingParameters)) rfl (.cons hdated (build_dated _) rfl .nil)

/-- A date that is a text goes out as one. -/
theorem stored_sent_on_text :
    (dated (.text "2001-02-03")).SendsJson (datingEquipment (.text "2001-02-03")) Rehearsal.outside
      (Placeholder.substitute (dating (.text "2001-02-03")).after.context (.object datedData)) := by
  have hready : HttpCall.Ready (datedParameters (dating (.text "2001-02-03")).after.context) :=
    ready_of_isOk (by decide +kernel) (by decide +kernel)
  have hsuccess : (dating (.text "2001-02-03")).outcome.success = true := by decide +kernel
  have hd : ∃ w, (dating (.text "2001-02-03")).after.context.get? "d" = some w ∧ Sayable w := by
    have hany : ((dating (.text "2001-02-03")).after.context.get? "d").any
        (Json.refusal? · == none) = true := by
      decide +kernel
    obtain ⟨w, hw, hnone⟩ := (Option.any_eq_true _ _).1 hany
    exact ⟨w, hw, Json.sayable_of_refusal? (beq_iff_eq.1 hnone)⟩
  have hvs : Evaluations (datingEquipment (.text "2001-02-03")) false Rehearsal.outside datedSteps
      ⟨{}, 0, {}⟩
      ([] ++ dating (.text "2001-02-03") :: ([] ++ dated (.text "2001-02-03") :: [])) _ :=
    evaluations_dated (.text "2001-02-03")
  have hdata : Entries.get? datedEntries "data" = some (.object datedData) := rfl
  have hkey : ∀ ch ∈ "d".toList, Placeholder.isKeyChar ch = true := by
    intro ch hch
    obtain rfl : ch = 'd' := by simpa using hch
    decide +kernel
  obtain ⟨value, -, hvalue, hsends, -⟩ :=
    stored_sent_on hvs hsuccess (by intro n p hn; cases hn) rfl
    (by decide) hkey (by simp) rfl rfl hdata trivial (List.mem_singleton_self (whole "d")) hready
  obtain ⟨w, hw, hsayable⟩ := hd
  have hvalue' : (dating (.text "2001-02-03")).after.context.get? "d" = some value := hvalue
  obtain rfl : w = value := Option.some.inj (hw.symm.trans hvalue')
  apply hsends
  refine ⟨hsayable, Json.sayable_object.2 (by simpa [datedData] using Json.Sayable.text _), ?_⟩
  intro s hs t _ ht hne
  obtain rfl : s = whole "d" := List.mem_singleton.1 hs
  rw [Placeholder.segments_whole (by decide) hkey] at ht
  cases ht
  exact absurd rfl hne

def numberedParameters : Entries :=
  [("dialect", .text "sqlite"), ("query", .text "select 1"),
    ("connection", .text "sqlite+aiosqlite:///x.db"),
    ("variable", .text "d")]

def notANumber : Rehearsal.QueryAnswer where
  result := .ok { columns := some ["n"], rows := [[.float .nan]] }

/-- A date that is no text goes into no JSON text, nor does a number that is not finite, and nothing
is sent. -/
theorem stored_not_sent :
    (((process (datingEquipment (.date "2001-02-03")) false datedSteps {}).run
          Rehearsal.outside 0 {}).1.1.toOption.map
        fun out => out.reports.map fun r => (r.action, r.success)) =
      some [("Faker.generate", true), ("Http.post", false)] ∧
    ((process (datingEquipment (.date "2001-02-03")) false datedSteps {}).run Rehearsal.outside 0
        {}).2.2.record.requests.length = 0 ∧
    (((process (datingEquipment .null) false [⟨.text "Database.query", .object numberedParameters⟩,
            ⟨.text "Http.post", .object datedEntries⟩] {}).run
          Rehearsal.outside 0 { script := { results := [notANumber] } }).1.1.toOption.map
        fun out => out.reports.map fun r => (r.action, r.success)) =
      some [("Database.query", true), ("Http.post", false)] := by
  refine ⟨?_, ?_, ?_⟩ <;> decide +kernel

end Test
end TestWorker
