import TestWorker.Proofs.Action.Atomic

namespace TestWorker

namespace Provider

/-- The module is one of the group: its name has the group as the third part. -/
def Under (p : Provider) (group : String) : Prop :=
  ∃ rest, Text.splitChars (· == '.') p.origin.toList =
    "faker".toList :: "providers".toList :: group.toList :: rest

def Leads (ps : List Provider) (group : String) (p : Provider) : Prop :=
  ∃ before after, ps = before ++ p :: after ∧ p.Under group ∧ ∀ q ∈ before, ¬q.Under group

/-- There is a generator of the name for callers. -/
def Offers (p : Provider) (function : String) (d : Draw) : Prop :=
  function.toList.head? ≠ some '_' ∧
    ∃ sample, Entries.get? p.attributes function = some (.generator sample) ∧
      d = ⟨p.origin, function, sample⟩

theorem ofList_eq_iff {cs : List Char} {s : String} : String.ofList cs = s ↔ cs = s.toList :=
  ⟨fun h => h ▸ String.toList_ofList.symm, fun h => h ▸ String.ofList_toList⟩

theorem group?_eq_some_iff {p : Provider} {group : String} :
    p.group? = some group ↔ p.Under group := by
  unfold group? Under
  split
  · next root branch third rest hparts =>
    rw [hparts]
    simp [ofList_eq_iff, and_assoc]
  · next hshort =>
    constructor
    · exact nofun
    · rintro ⟨rest, hparts⟩
      exact (hshort _ _ _ _ hparts).elim

theorem ofGroup?_eq_some_iff {ps : List Provider} {group : String} {p : Provider} :
    ofGroup? ps group = some p ↔ Leads ps group p := by
  unfold ofGroup? Leads
  rw [List.find?_eq_some_iff_append]
  simp only [beq_iff_eq, Bool.not_eq_true', beq_eq_false_iff_ne, ne_eq, group?_eq_some_iff]
  constructor
  · rintro ⟨hp, before, after, hps, hbefore⟩
    exact ⟨before, after, hps, hp, hbefore⟩
  · rintro ⟨before, after, hps, hp, hbefore⟩
    exact ⟨hp, before, after, hps, hbefore⟩

theorem ofGroup?_eq_none_iff {ps : List Provider} {group : String} :
    ofGroup? ps group = none ↔ ∀ p ∈ ps, ¬p.Under group := by
  simp [ofGroup?, List.find?_eq_none, group?_eq_some_iff]

theorem startsWith_underscore (s : String) :
    s.startsWith "_" = true ↔ s.toList.head? = some '_' := by
  rw [String.startsWith_string_iff]
  cases s.toList with
  | nil => simp
  | cons c cs => simp [eq_comm]

theorem find?_eq_some_iff {p : Provider} {function : String} {d : Draw} :
    p.find? function = some d ↔ p.Offers function d := by
  unfold find? Offers
  rw [ne_eq, ← startsWith_underscore]
  split
  · next h => simp [h]
  · next h =>
    simp only [h]
    cases Entries.get? p.attributes function with
    | none => simp
    | some a => cases a <;> simp [eq_comm]

end Provider

/-- A call of a generator, and what it gave. -/
def Effect.drawn? : (e : Effect) → e.Reply → Option (Draw × Except Fault Value)
  | .draw d, r => some (d, r)
  | _, _ => none

/-- The calls of generators in a run, in order. -/
def draws (ms : List Moment) : List (Draw × Except Fault Value) :=
  ms.filterMap fun m => m.effect.drawn? m.reply

namespace Action
open HttpCall (parameter)
open Provider (Leads)
variable {σ : Type} {ps : List Provider}

/-- The parameters name a generator of the first provider of a group. -/
def Called (ps : List Provider) (p : Entries) (d : Draw) : Prop :=
  (parameter p "category").truthy = true ∧ (parameter p "function").truthy = true ∧
  ∃ group name q, parameter p "category" = .text group ∧ parameter p "function" = .text name ∧
    Leads ps group q ∧ q.Offers name d

/-- What a step tells that fails, if category and function are texts: the first check that it does
not pass, and where it passes all of them, the fault of the generator, of the name to keep the value
under, or of the text of the value. -/
inductive Refusal (ps : List Provider) (category function : String) (name : Value)
    (drawn : List (Draw × Except Fault Value)) : String → Prop
  | noCategory : category = "" →
    Refusal ps category function name drawn "Category must be selected, got none"
  | noFunction : category ≠ "" → function = "" →
      Refusal ps category function name drawn "Function must be selected, got none"
  | invalidCategory : category ≠ "" → function ≠ "" → (∀ p ∈ ps, ¬p.Under category) →
      Refusal ps category function name drawn ("Got invalid category " ++ category)
  | invalidFunction {q : Provider} : category ≠ "" → function ≠ "" → Leads ps category q →
      (∀ d, ¬q.Offers function d) →
      Refusal ps category function name drawn ("Got invalid function " ++ function)
  | raised {d : Draw} {f : Fault} : category ≠ "" → function ≠ "" → drawn = [(d, .error f)] →
      Refusal ps category function name drawn (told f.leaving)
  | unhashable {d : Draw} {v : Value} {kind : String} : category ≠ "" → function ≠ "" →
      drawn = [(d, .ok v)] → name.truthy = true → name.unhashable? = some kind →
      Refusal ps category function name drawn ("TypeError: unhashable type: '" ++ kind ++ "'")
  | unwritable {d : Draw} {v : Value} {e : Value.Excess} : category ≠ "" → function ≠ "" →
      drawn = [(d, .ok v)] → storable name = true → v.excess? Value.nestingLimit = some e →
      Refusal ps category function name drawn (told (.unwritable e))

/-- The value is kept under the name, if the name says anything. -/
structure Kept (name v : Value) (c c' : Context) : Prop where
  put : c' = if name.truthy then c.put name v else c
  found : name.truthy = true → name.sameKey name = true → c'.lookup name = some v

/-- What a step with these parameters comes to, by the calls that it makes: whether it succeeds,
what its report tells, and the variables after it. -/
structure Judged (ps : List Provider) (p : Entries) (c : Context)
    (drawn : List (Draw × Except Fault Value)) (success : Bool) (summary : String) (c' : Context) :
    Prop where
  calls : (∃ d reply, Called ps p d ∧ drawn = [(d, reply)]) ∨ (∀ d, ¬Called ps p d) ∧ drawn = []
  succeeds : success = true ↔ ∃ d v, Called ps p d ∧ drawn = [(d, .ok v)] ∧
    storable (parameter p "variable") = true ∧ v.excess? Value.nestingLimit = none
  kept : ∀ d v, drawn = [(d, .ok v)] → storable (parameter p "variable") = true →
    Kept (parameter p "variable") v c c'
  unchanged : (∀ d v, drawn = [(d, .ok v)] → storable (parameter p "variable") = false) → c' = c
  told : success = false → ∀ category function, parameter p "category" = .text category →
    parameter p "function" = .text function →
    Refusal ps category function (parameter p "variable") drawn summary

theorem providerOf_text {group : String} {q : Provider} :
    providerOf ps (.text group) = .ok (some q) ↔ Leads ps group q := by
  rw [← Provider.ofGroup?_eq_some_iff]
  exact ⟨Except.ok.inj, congrArg Except.ok⟩

theorem generatorOf_text {q : Provider} {name : String} {d : Draw} :
    generatorOf q (.text name) = .ok (some d) ↔ q.Offers name d := by
  rw [← Provider.find?_eq_some_iff]
  exact ⟨Except.ok.inj, congrArg Except.ok⟩

theorem eq_text_of_providerOf {category : Value} {q : Provider}
    (h : providerOf ps category = .ok (some q)) :
    ∃ group, category = .text group := by
  unfold providerOf at h
  split at h
  · cases h
  · exact ⟨_, rfl⟩
  · cases h

theorem eq_text_of_generatorOf {q : Provider} {function : Value} {found : Option Draw}
    (h : generatorOf q function = .ok found) : ∃ name, function = .text name := by
  cases function with
  | text name => exact ⟨name, rfl⟩
  | _ => cases h

/-- Checks and look-ups as the action makes them. -/
theorem called_iff {p : Entries} {d : Draw} :
    Called ps p d ↔ (parameter p "category").truthy = true ∧
      (parameter p "function").truthy = true ∧
      ∃ q, providerOf ps (parameter p "category") = .ok (some q) ∧
        generatorOf q (parameter p "function") = .ok (some d) := by
  unfold Called
  refine and_congr_right fun _ => and_congr_right fun _ => ?_
  constructor
  · rintro ⟨group, name, q, hc, hf, hq, hd⟩
    rw [hc, hf]
    exact ⟨q, providerOf_text.2 hq, generatorOf_text.2 hd⟩
  · rintro ⟨q, hq, hd⟩
    obtain ⟨group, hc⟩ := eq_text_of_providerOf hq
    obtain ⟨name, hf⟩ := eq_text_of_generatorOf hd
    rw [hc] at hq
    rw [hf] at hd
    exact ⟨group, name, q, hc, hf, providerOf_text.1 hq, generatorOf_text.1 hd⟩

theorem truthy_text {s : String} : (Value.text s).truthy = true ↔ s ≠ "" := by
  simp [Value.truthy]

theorem kept_of_store {c c' : Context} {name v : Value} (h : store c name v = .ok c') :
    Kept name v c c' := by
  obtain ⟨-, rfl⟩ := store_eq_ok_iff.1 h
  refine ⟨rfl, fun htruthy hself => ?_⟩
  rw [if_pos htruthy]
  exact Context.lookup_put_self c v hself

section
variable {p : Entries} {c c' : Context}

theorem judged_of_uncalled {summary : String} (hnone : ∀ d, ¬Called ps p d)
    (htold : ∀ category function, parameter p "category" = .text category →
      parameter p "function" = .text function →
      Refusal ps category function (parameter p "variable") [] summary) :
    Judged ps p c [] false summary c where
  calls := .inr ⟨hnone, rfl⟩
  succeeds := iff_of_false nofun fun ⟨d, _, hd, _⟩ => hnone d hd
  kept := nofun
  unchanged _ := rfl
  told _ := htold

theorem judged_of_no_category (h : (parameter p "category").truthy = false) :
    Judged ps p c [] false "Category must be selected, got none" c := by
  refine judged_of_uncalled (by simp [called_iff, h]) fun category function hc hf => .noCategory ?_
  rw [hc] at h
  simpa [Value.truthy] using h

theorem judged_of_no_function (hcategory : (parameter p "category").truthy = true)
    (h : (parameter p "function").truthy = false) :
    Judged ps p c [] false "Function must be selected, got none" c := by
  refine judged_of_uncalled (by simp [called_iff, h]) fun category function hc hf => ?_
  rw [hc, truthy_text] at hcategory
  rw [hf] at h
  exact .noFunction hcategory (by simpa [Value.truthy] using h)

theorem judged_of_category_fault {f : Fault} (h : providerOf ps (parameter p "category") = .error f)
    (summary : String) : Judged ps p c [] false summary c := by
  refine judged_of_uncalled (by simp [called_iff, h]) fun category function hc hf => ?_
  rw [hc] at h
  cases h

section
variable (hcategory : (parameter p "category").truthy = true)
  (hfunction : (parameter p "function").truthy = true)
include hcategory hfunction

theorem judged_of_invalid_category (h : providerOf ps (parameter p "category") = .ok none)
    (summary : String) (hsummary : ∀ category, parameter p "category" = .text category →
      summary = "Got invalid category " ++ category) :
    Judged ps p c [] false summary c := by
  refine judged_of_uncalled (by simp [called_iff, h]) fun category function hc hf => ?_
  rw [hsummary category hc]
  rw [hc] at h hcategory
  rw [hf] at hfunction
  exact .invalidCategory (truthy_text.1 hcategory) (truthy_text.1 hfunction)
    (Provider.ofGroup?_eq_none_iff.1 (Except.ok.inj h))

variable {q : Provider} (hq : providerOf ps (parameter p "category") = .ok (some q))
include hq

omit hcategory hfunction in
theorem judged_of_function_fault {f : Fault} (h : generatorOf q (parameter p "function") = .error f)
    (summary : String) : Judged ps p c [] false summary c := by
  refine judged_of_uncalled (by simp [called_iff, hq, h]) fun category function hc hf => ?_
  rw [hf] at h
  cases h

theorem judged_of_invalid_function (h : generatorOf q (parameter p "function") = .ok none) :
    Judged ps p c [] false ("Got invalid function " ++ (parameter p "function").display) c := by
  refine judged_of_uncalled (by simp [called_iff, hq, h]) fun category function hc hf => ?_
  rw [hc] at hq hcategory
  rw [hf] at h hfunction ⊢
  refine .invalidFunction (truthy_text.1 hcategory) (truthy_text.1 hfunction) (providerOf_text.1 hq)
    fun d hd => ?_
  rw [← generatorOf_text, h] at hd
  cases hd

end

section
variable {d : Draw} (hd : Called ps p d)
include hd

theorem Called.category_ne {category : String} (hc : parameter p "category" = .text category) :
    category ≠ "" :=
  truthy_text.1 (hc ▸ hd.1)

theorem Called.function_ne {function : String} (hf : parameter p "function" = .text function) :
    function ≠ "" :=
  truthy_text.1 (hf ▸ hd.2.1)

theorem judged_of_raised (f : Fault) : Judged ps p c [(d, .error f)] false (told f.leaving) c where
  calls := .inl ⟨d, _, hd, rfl⟩
  succeeds := iff_of_false nofun fun ⟨_, _, _, hdrawn, _⟩ => by cases hdrawn
  kept := nofun
  unchanged _ := rfl
  told _ _ _ hc hf := .raised (hd.category_ne hc) (hd.function_ne hf) rfl

variable {v : Value}

theorem judged_of_unkept {f : Fault} (h : store c (parameter p "variable") v = .error f) :
    Judged ps p c [(d, .ok v)] false (told f.leaving) c := by
  obtain ⟨kind, htruthy, hkind, rfl⟩ := store_eq_error_iff.1 h
  have hstorable : storable (parameter p "variable") = false := by simp [storable, htruthy, hkind]
  exact {
    calls := .inl ⟨d, _, hd, rfl⟩
    succeeds := iff_of_false nofun fun ⟨_, _, _, _, hs, _⟩ => by simp [hstorable] at hs
    kept := fun _ _ _ hs => by simp [hstorable] at hs
    unchanged := fun _ => rfl
    told := fun _ _ _ hc hf =>
      .unhashable (hd.category_ne hc) (hd.function_ne hf) rfl htruthy hkind }

variable (h : store c (parameter p "variable") v = .ok c')
include h

/-- A value is kept, and there may be no text of it for the report. -/
theorem judged_of_store {success : Bool} {summary : String}
    (hsuccess : success = true ↔ v.excess? Value.nestingLimit = none)
    (hsummary : ∀ e, v.excess? Value.nestingLimit = some e →
      summary = Action.told (.unwritable e)) :
    Judged ps p c [(d, .ok v)] success summary c' where
  calls := .inl ⟨d, _, hd, rfl⟩
  succeeds := by
    have hstorable := (store_eq_ok_iff.1 h).1
    rw [hsuccess]
    constructor
    · exact fun hnone => ⟨d, v, hd, rfl, hstorable, hnone⟩
    · rintro ⟨d', v', -, hdrawn, -, hnone⟩
      cases hdrawn
      exact hnone
  kept _ _ hdrawn _ := by
    cases hdrawn
    exact kept_of_store h
  unchanged hnot := by
    have hstorable := (store_eq_ok_iff.1 h).1
    simp [hnot d v rfl] at hstorable
  told hfailed category function hc hf := by
    cases hexcess : v.excess? Value.nestingLimit with
    | none => simp [hsuccess.2 hexcess] at hfailed
    | some e =>
      rw [hsummary e hexcess]
      exact .unwritable (hd.category_ne hc) (hd.function_ne hf) rfl (store_eq_ok_iff.1 h).1 hexcess

end

/-- The one report of an attempt, or the fault that will be told in it. -/
def Comes (ps : List Provider) (name : String) (p : Entries) (c : Context)
    (drawn : List (Draw × Except Fault Value)) : Except Fault Outcome × Context → Prop
  | (.ok out, c') =>
    ∃ r, out.reports = [r] ∧ r.action = name ∧ Judged ps p c drawn r.success r.summary c'
  | (.error f, c') => Judged ps p c drawn false (told f.leaving) c'

theorem failed_comes {name summary : String} (started : Instant)
    (h : Judged ps p c [] false summary c) :
    ((Work.of (failed name summary started)).outcome c).Logs Effect.drawn? (Comes ps name p c) :=
  fun _ => ⟨_, rfl, rfl, h⟩

theorem Work.outcome_draw_bind {β : Type} (d : Draw) (f : Value → Work β) (c : Context) :
    (Work.of (draw d) >>= f).outcome c =
      .ask (.draw d) fun reply : Except Fault Value => match reply with
      | .ok v => (f v).outcome c
      | .error e => .done (.error e, c) := by
  refine congrArg (Activity.ask (.draw d)) (funext fun reply => ?_)
  change Except Fault Value at reply
  cases reply <;> rfl

theorem attemptGenerate_comes (ps : List Provider) (name : String) (p : Entries) (c : Context)
    (started : Instant) :
    ((attemptGenerate ps name p started).outcome c).Logs Effect.drawn? (Comes ps name p c) := by
  unfold attemptGenerate
  dsimp only
  split
  · next h => exact failed_comes started (judged_of_no_category (by simpa using h))
  next hcategory =>
  split
  · next h =>
    exact failed_comes started
      (judged_of_no_function (by simpa using hcategory) (by simpa using h))
  next hfunction =>
  rw [Bool.not_eq_true, Bool.not_eq_false'] at hcategory hfunction
  rw [Work.outcome_ofExcept_bind]
  cases hprovider : providerOf ps (parameter p "category") with
  | error f => exact judged_of_category_fault hprovider _
  | ok found =>
  cases found with
  | none =>
    have hinvalid := judged_of_invalid_category (c := c) hcategory hfunction hprovider
    dsimp only
    rw [Work.outcome_ofExcept_bind]
    cases hshown : (parameter p "category").formatted with
    | error f =>
      refine hinvalid _ fun category hc => ?_
      rw [hc] at hshown
      cases hshown
    | ok shown =>
      refine failed_comes started (hinvalid _ fun category hc => ?_)
      rw [hc] at hshown
      cases hshown
      rfl
  | some q =>
  dsimp only
  rw [Work.outcome_ofExcept_bind]
  cases hgenerator : generatorOf q (parameter p "function") with
  | error f => exact judged_of_function_fault hprovider hgenerator _
  | ok found =>
  cases found with
  | none =>
    exact failed_comes started (judged_of_invalid_function hcategory hfunction hprovider hgenerator)
  | some d =>
  have hcalled : Called ps p d := called_iff.2 ⟨hcategory, hfunction, q, hprovider, hgenerator⟩
  dsimp only
  rw [Work.outcome_draw_bind]
  intro reply
  change Except Fault Value at reply
  cases reply with
  | error f => exact judged_of_raised hcalled f
  | ok v =>
  dsimp only
  rw [Work.outcome_store_bind]
  cases hstore : Action.store c (parameter p "variable") v with
  | error f => exact judged_of_unkept hcalled hstore
  | ok c' =>
  dsimp only
  rw [Work.outcome_ofExcept_bind]
  unfold Value.formatted
  cases hexcess : v.excess? Value.nestingLimit with
  | some e =>
    exact judged_of_store hcalled hstore (by simp [hexcess]) (by simp [hexcess, Fault.leaving])
  | none =>
    intro t
    exact ⟨_, rfl, rfl, judged_of_store hcalled hstore (by simp [hexcess]) (by simp [hexcess])⟩

theorem generate_comes (e : Equipment) (p : Entries) (c : Context) :
    ((generate p).run e c).Logs Effect.drawn? fun log x => ∃ r, x.1.reports = [r] ∧
      r.action = "Faker.generate" ∧ Judged e.providers p c log r.success r.summary x.2 := by
  unfold run undertake
  rw [Activity.logs_bind, Activity.logs_now fun _ => rfl]
  intro started
  rw [Activity.logs_bind]
  refine (attemptGenerate_comes e.providers _ p c started).mono fun log x hx => ?_
  obtain ⟨x, c'⟩ := x
  cases x with
  | ok out =>
    obtain ⟨r, hr, hname, hjudged⟩ := hx
    have hne : out.reports.isEmpty = false := by simp [hr]
    simpa [reported, hne] using ⟨r, hr, hname, hjudged⟩
  | error f =>
    rw [Activity.logs_bind, Activity.logs_since fun _ => rfl]
    intro t
    have hjudged : Judged e.providers p c log false (told f.leaving) c' := hx
    exact ⟨_, rfl, rfl, by simpa [told] using hjudged⟩

end

/-- A generating step is built from any parameters and makes one report. It calls a generator
exactly if the first provider of its category has one of the name; it succeeds exactly if the call
gives a value that can be kept under `variable` and has a text. The value is kept before its text is
made, and stays where there is no text. Otherwise a failure leaves the variables as they were, and
of a category and a function that are texts it tells the first check that they do not pass, or else
what was raised. -/
theorem generator_verdict (p : Entries) (e : Equipment) (c : Context)
    (o : Outside σ) (now : Instant) (s : σ) :
    build (.text "Faker.generate") (.object p) = .ok (.generate p) ∧
    ∃ out c' later s', ((generate p).run e c).run o now s = ((out, c'), later, s') ∧
      ∃ r, out.reports = [r] ∧ r.action = "Faker.generate" ∧
        Judged e.providers p c (draws (((generate p).run e c).trace o now s))
          r.success r.summary c' := by
  refine ⟨?_, _, _, _, _, rfl, (generate_comes e p c).run o now s⟩
  exact congrArg (fun r => r >>= fun es => pure (Action.generate es)) (parametersOf_object p)

def unnamedParameters : Entries := [("category", .text "python"), ("function", .text "pylist")]

/-- A call of the generator returns a list that is nested too deep for a text: the step fails,
though there is no name to keep the list under. -/
theorem failed_although_drawn :
    ∃ (d : Draw) (v : Value) (out : Outcome) (c' : Context) (r : Report)
      (later : Instant) (world : Rehearsal),
      Called [nestingProvider] unnamedParameters d ∧
      ((generate unnamedParameters).run ⟨⟨some .targets, false⟩, [nestingProvider]⟩ {}).run
        Rehearsal.outside 0 {} = ((out, c'), later, world) ∧
      draws (((generate unnamedParameters).run ⟨⟨some .targets, false⟩, [nestingProvider]⟩ {}).trace
        Rehearsal.outside 0 {}) = [(d, .ok v)] ∧
      out.reports = [r] ∧ r.success = false := by
  obtain ⟨⟨⟨out, c'⟩, later, world⟩, hrun, hsuccesses⟩ :
      ∃ w, ((generate unnamedParameters).run ⟨⟨some .targets, false⟩, [nestingProvider]⟩ {}).run
          Rehearsal.outside 0 {} = w ∧ w.1.1.reports.map (·.success) = [false] :=
    ⟨_, rfl, by decide +kernel⟩
  have hreturned : (draws (((generate unnamedParameters).run
      ⟨⟨some .targets, false⟩, [nestingProvider]⟩ {}).trace Rehearsal.outside 0 {})).map
        (·.2.isOk) = [true] := by
    decide +kernel
  obtain ⟨r, hr, hfail⟩ := List.map_eq_singleton_iff.1 hsuccesses
  have hcalls := (generate_comes ⟨⟨some .targets, false⟩, [nestingProvider]⟩
    unnamedParameters {}).run Rehearsal.outside 0 {}
  obtain ⟨_, -, -, hjudged⟩ := hcalls
  rcases hjudged.calls with ⟨d, reply, hcalled, hdrawn⟩ | ⟨-, hnone⟩
  · rw [show draws _ = _ from hdrawn] at hreturned
    cases reply with
    | error f => cases hreturned
    | ok v => exact ⟨d, v, out, c', r, later, world, hcalled, hrun, hdrawn, hr, hfail⟩
  · rw [show draws _ = _ from hnone] at hreturned
    cases hreturned

def twoOfAGroup : List Provider :=
  [Provider.english "person" [], Provider.english "person" [Provider.sample "first_name" "Ann"]]

/-- The second provider of the group has the generator, and is not asked. -/
example : (((generate [("category", .text "person"), ("function", .text "first_name")]).run
      ⟨⟨some .targets, false⟩, twoOfAGroup⟩ {}).run Rehearsal.outside 0 {}).1.1.reports.map
        (·.summary) = ["Got invalid function first_name"] := by
  decide +kernel

end Action
end TestWorker
