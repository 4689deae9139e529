import TestWorker.Proofs.Action.Absence
import TestWorker.Proofs.Action.Evaluation
import TestWorker.Proofs.Json.Sayable

namespace TestWorker

namespace Activity
variable {α β σ : Type}

/-- Whatever is replied, there is an exchange, and the request of the first one has the property. -/
def Opens (P : Web.Request → Prop) : Activity α → Prop
  | done _ => False
  | ask (.exchange r) _ => P r
  | ask .clock next | ask (.print _) next | ask (.cookies _) next | ask (.remember ..) next
  | ask (.step _) next | ask (.query _) next | ask (.draw _) next | ask (.pause _) next =>
    ∀ r, (next r).Opens P

variable {P : Web.Request → Prop} {a : Activity α} {f : α → Activity β}

theorem opens_ask {e : Effect} {next : e.Reply → Activity α} (he : ¬e.isExchange) :
    (ask e next).Opens P ↔ ∀ r, (next r).Opens P := by
  cases e with
  | exchange r => exact absurd trivial he
  | _ => exact Iff.rfl

theorem opens_after (ha : a.Asks fun e => ¬e.isExchange) (h : a.Yields fun x => (f x).Opens P) :
    (a >>= f).Opens P := by
  induction a with
  | done a => exact h
  | ask e next ih => exact (opens_ask ha.1).2 fun r => ih r (ha.2 r) (h r)

theorem Opens.bind (h : a.Opens P) : (a >>= f).Opens P := by
  induction a with
  | done a => exact h.elim
  | ask e next ih =>
    cases e with
    | exchange r => exact h
    | _ => exact fun r => ih r (h r)

theorem Opens.run (h : a.Opens P) (o : Outside σ) (now : Instant) (s : σ) :
    ∃ r answer rest, exchanges (a.trace o now s) = (r, answer) :: rest ∧ P r := by
  induction a generalizing now s with
  | done a => exact h.elim
  | ask e next ih =>
    cases e with
    | exchange r => exact ⟨r, _, _, rfl, h⟩
    | _ => exact ih _ (h _) _ _

end Activity

namespace Web

/-- But for its body, a request can be made of the draft. -/
def Draft.Fit (d : Draft) : Prop := ∃ r, { d with content := .absent }.request [] = .ok r

theorem Content.encode_json {v : Value} (h : Json.Sayable v) :
    ∃ described, (Content.json v).encode =
      .ok (described, Text.utf8Bytes (Json.text Json.compact v)) := by
  simp only [Content.encode, Json.strict_of_sayable h]
  exact ⟨_, rfl⟩

theorem Content.encode_json_error {v : Value} (h : ¬Json.Sayable v) :
    ∃ r, (Content.json v).encode = .error (.notJson r) := by
  obtain ⟨r, hr⟩ := Json.strict_of_not_sayable h
  exact ⟨r, by simp only [Content.encode, hr]; rfl⟩

/-- What a fit draft comes to is up to its body, whatever cookies go along. -/
theorem Draft.Fit.request {d : Draft} (h : d.Fit) (jar : Jar) :
    (∀ f, d.content.encode = .error f → d.request jar = .error f) ∧
    ∀ described body, d.content.encode = .ok (described, body) →
      ∃ r, d.request jar = .ok r ∧ r.method = d.method ∧ r.body = body := by
  obtain ⟨r, hr⟩ := h
  unfold Draft.request at hr
  obtain ⟨url, hurl, hr⟩ := Except.bind_eq_ok.1 hr
  obtain ⟨headers, hheaders, hr⟩ := Except.bind_eq_ok.1 hr
  obtain ⟨query, hquery, hr⟩ := Except.bind_eq_ok.1 hr
  dsimp only at hurl hheaders hquery
  unfold Draft.request
  simp only [hurl, hheaders, hquery, bind, Except.bind]
  -- with the address settled, only the body is left that may fail
  cases query with
  | none =>
    constructor
    · intro f hf
      rw [hf]
      rfl
    · intro described body hbody
      rw [hbody]
      exact ⟨_, rfl, rfl, rfl⟩
  | some q =>
    obtain ⟨url', hurl', -⟩ := Except.bind_eq_ok.1 hr
    constructor
    · intro f hf
      dsimp only
      rw [hurl', hf]
    · intro described body hbody
      dsimp only
      rw [hurl', hbody]
      exact ⟨_, rfl, rfl, rfl⟩

namespace Client
variable {c : Client}

theorem jar_asks (c : Client) : c.jar.outcome.Asks fun e => ¬e.isExchange := by
  unfold jar
  cases c.session with
  | none => trivial
  | some s => exact ⟨id, fun _ => trivial⟩

theorem jar_yields (c : Client) : c.jar.outcome.Yields fun x => ∃ j, x = .ok j := by
  unfold jar
  cases c.session with
  | none => exact ⟨_, rfl⟩
  | some s => exact fun j => ⟨j, rfl⟩

theorem send_opens {d : Draft} {P : Request → Prop} (h : ∀ jar, ∃ r, d.request jar = .ok r ∧ P r) :
    (c.send d).outcome.Opens P := by
  unfold send
  rw [Attempt.outcome_bind]
  refine Activity.opens_after c.jar_asks (c.jar_yields.mono fun x hx => ?_)
  obtain ⟨j, rfl⟩ := hx
  obtain ⟨r, hr, hP⟩ := h j
  dsimp only
  rw [hr]
  exact hP

/-- A request that cannot be made is the end of it. -/
theorem send_refused {d : Draft} {f : Fault} (h : ∀ jar, d.request jar = .error f) :
    ((c.send d).outcome.Asks fun e => ¬e.isExchange) ∧
      (c.send d).outcome.Yields fun x => x = .error f := by
  unfold send
  rw [Attempt.outcome_bind]
  constructor
  · refine Activity.asks_bind.2 ⟨c.jar_asks, c.jar_yields.mono fun x hx => ?_⟩
    obtain ⟨j, rfl⟩ := hx
    dsimp only
    rw [h j]
    trivial
  · refine Activity.yields_bind.2 (c.jar_yields.mono fun x hx => ?_)
    obtain ⟨j, rfl⟩ := hx
    dsimp only
    rw [h j]
    rfl

end Client

end Web

namespace Action
open HttpCall (parameter ofParameters)
variable {e : Equipment} {n : String} {p : Entries} {v : Value}

/-- A request can be made of the parameters, but for the body. -/
structure HttpCall.Ready (p : Entries) : Prop where
  addressed : (parameter p "url").truthy = true
  fit : ∃ call, ofParameters p = .ok call ∧ (call.draft (parameter p "url")).Fit

def HttpCall.IsTree : Value → Prop
  | .list _ | .object _ => True
  | _ => False

theorem HttpCall.of_ofParameters {call : HttpCall} (h : ofParameters p = .ok call) :
    call.method = methodOf p ∧ call.body = bodyOf (content p) := by
  obtain ⟨headers, -, h⟩ := Except.bind_eq_ok.1 h
  dsimp only at h
  split at h
  · cases h
    exact ⟨rfl, rfl⟩
  · obtain ⟨timeout, -, h⟩ := Except.bind_eq_ok.1 h
    cases h
    exact ⟨rfl, rfl⟩

theorem HttpCall.content_of_tree {call : HttpCall} (h : ofParameters p = .ok call)
    (hv : IsTree (content p)) (url : Value) : (call.draft url).content = .json (content p) := by
  unfold draft
  rw [(of_ofParameters h).2]
  generalize content p = v at hv
  cases v with
  | list vs => rfl
  | object es => rfl
  | _ => cases hv

theorem failed_asks (name summary : String) (started : Instant) (details : Option String) :
    (failed name summary started details).outcome.Asks fun e => ¬e.isExchange :=
  ⟨id, fun _ => trivial⟩

/-- What the action does with the result of its request; it sends no other. -/
theorem attemptHttp_outcome (hurl : (parameter p "url").truthy = true) (started : Instant) :
    ∃ after : Except Fault Web.Response → Activity (Except Fault Outcome),
      (attemptHttp n e.client p started).outcome = (Attempt.outcome do
        e.client.send ((← Attempt.ofExcept (ofParameters p)).draft (parameter p "url"))) >>= after ∧
      (∀ r, after (.error (.notJson r)) = .done (.error (.notJson r))) ∧
      ∀ x, (after x).Asks fun e => ¬e.isExchange := by
  unfold attemptHttp
  simp only [hurl, Bool.not_true, Bool.false_eq_true, if_false]
  rw [Attempt.outcome_bind, Attempt.outcome_liftM, Activity.bind_assoc]
  refine ⟨_, rfl, fun _ => rfl, fun x => ?_⟩
  rw [Activity.done_bind]
  cases x with
  | error f =>
    cases f with
    | transport kind message => exact failed_asks n _ started _
    | _ => trivial
  | ok r =>
    dsimp only
    rw [Attempt.outcome_bind, Attempt.outcome_ofExcept, Activity.done_bind]
    cases r.payload with
    | error f => trivial
    | ok es => exact ⟨id, fun _ => trivial⟩

/-- The body is the compact text of what is given. -/
theorem http_opens (h : HttpCall.Ready p) (hv : HttpCall.IsTree (HttpCall.content p))
    (hs : Json.Sayable (HttpCall.content p)) (c : Context) :
    ((http n p).run e c).Opens fun r => r.method = HttpCall.methodOf p ∧
      r.body = Text.utf8Bytes (Json.text Json.compact (HttpCall.content p)) := by
  obtain ⟨call, hcall, hfit⟩ := h.fit
  obtain ⟨described, hbody⟩ := Web.Content.encode_json hs
  rw [← HttpCall.content_of_tree hcall hv (parameter p "url")] at hbody
  have hmethod : (call.draft (parameter p "url")).method = HttpCall.methodOf p :=
    (HttpCall.of_ofParameters hcall).1
  unfold run undertake
  refine Activity.opens_after ⟨id, fun _ => trivial⟩ fun (started : Instant) => ?_
  apply Activity.Opens.bind
  obtain ⟨after, hafter, -, -⟩ := attemptHttp_outcome h.addressed started
  rw [http_work, hafter, hcall]
  apply Activity.Opens.bind
  apply Activity.Opens.bind
  apply Web.Client.send_opens
  intro jar
  obtain ⟨r, hr, hm, hb⟩ := (hfit.request jar).2 described _ hbody
  exact ⟨r, hr, hm.trans hmethod, hb⟩

/-- Where it has no text, nothing is sent, and that is what the one report says. -/
theorem http_refused (h : HttpCall.Ready p) (hv : HttpCall.IsTree (HttpCall.content p))
    (hs : ¬Json.Sayable (HttpCall.content p)) (c : Context) :
    (((http n p).run e c).Asks fun e => ¬e.isExchange) ∧
    ((http n p).run e c).Yields fun x => x.2 = c ∧ ∃ r t, x.1.reports = [{
      action := n, success := false, time := t
      summary := (Fault.notJson r).kind ++ ": " ++ (Fault.notJson r).message
      details := some (Fault.notJson r).literal }] := by
  obtain ⟨call, hcall, hfit⟩ := h.fit
  obtain ⟨reason, hbody⟩ := Web.Content.encode_json_error hs
  rw [← HttpCall.content_of_tree hcall hv (parameter p "url")] at hbody
  obtain ⟨hasks, hyields⟩ :=
    Web.Client.send_refused (c := e.client) fun jar => (hfit.request jar).1 _ hbody
  have hwork : ∀ started, (((http n p).work e started).outcome c).Asks (fun e => ¬e.isExchange) ∧
      (((http n p).work e started).outcome c).Yields
        fun x => x = (.error (.notJson reason), c) := by
    intro started
    obtain ⟨after, hafter, hfault, -⟩ := attemptHttp_outcome h.addressed started
    rw [http_work, hafter, hcall]
    constructor
    · refine Activity.asks_bind.2 ⟨Activity.asks_bind.2 ⟨hasks, hyields.mono ?_⟩, ?_⟩
      · rintro x rfl
        rw [hfault]
        trivial
      · exact Activity.yields_of_forall _ fun _ => trivial
    · refine Activity.yields_bind.2 (Activity.yields_bind.2 (hyields.mono ?_))
      rintro x rfl
      rw [hfault]
      rfl
  unfold run undertake
  constructor
  · refine Activity.asks_bind.2 ⟨⟨id, fun _ => trivial⟩, fun started => ?_⟩
    refine Activity.asks_bind.2 ⟨(hwork started).1, (hwork started).2.mono ?_⟩
    rintro x rfl
    exact ⟨id, fun _ => trivial⟩
  · refine Activity.yields_bind.2 fun started => ?_
    refine Activity.yields_bind.2 ((hwork started).2.mono ?_)
    rintro x rfl t
    exact ⟨rfl, reason, _, rfl⟩

end Action
end TestWorker
