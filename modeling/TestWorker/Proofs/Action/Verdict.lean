import TestWorker.Proofs.Action.Request
import TestWorker.Proofs.Coordinator.Answer
import TestWorker.Proofs.Web.Chain

namespace TestWorker

namespace Web

/-- The charset takes the byte order from a mark, and there is none. -/
def Charset.Unmarked (body : Text.Bytes) : Charset → Prop
  | .marked16 => 2 ≤ body.length ∧ body.take 2 ∉ [[0xFF, 0xFE], [0xFE, 0xFF]]
  | .marked32 => 4 ≤ body.length ∧ body.take 4 ∉ [[0xFF, 0xFE, 0, 0], [0, 0, 0xFE, 0xFF]]
  | .fixed _ | .marked8 => False

theorem Charset.read_isOk_iff {c : Charset} {body : Text.Bytes} :
    (∃ t, c.read body = .ok t) ↔ ¬c.Unmarked body := by
  unfold Charset.read
  cases c with
  | fixed e => simp [Unmarked]
  | marked8 =>
    dsimp only
    split <;> simp [Unmarked]
  | marked16 =>
    rcases body with - | ⟨a, - | ⟨b, rest⟩⟩
    · simp [Unmarked]
    · simp [Unmarked]
    · dsimp only
      split_ifs <;> simp_all [Unmarked]
  | marked32 =>
    dsimp only
    split
    · simp [Unmarked]
    · simp [Unmarked]
    · simp [Unmarked]
    · next h₁ h₂ _ =>
      split_ifs with hlength
      · simp [Unmarked, hlength]
      · have hleast : 4 ≤ body.length := by omega
        refine iff_of_false nofun (not_not.2 ⟨hleast, fun hmark => ?_⟩)
        rcases body with - | ⟨a, - | ⟨b, - | ⟨c, - | ⟨d, rest⟩⟩⟩⟩
        iterate 4 simp at hleast
        simp only [List.take_succ_cons, List.take_zero, List.mem_cons, List.cons.injEq, and_true,
          List.not_mem_nil, or_false] at hmark
        rcases hmark with ⟨rfl, rfl, rfl, rfl⟩ | ⟨rfl, rfl, rfl, rfl⟩
        · exact h₁ rest rfl
        · exact h₂ rest rfl

namespace Response
variable {r : Response} {v : Value}

/-- What the body says: the value of its JSON, or its text where it is no JSON. -/
def Reads (r : Response) (data : Value) : Prop :=
  Json.readBytes r.body = .ok data ∨
    (∀ v, Json.readBytes r.body ≠ .ok v) ∧ ∃ t, r.text = .ok t ∧ data = .text t

def shown (r : Response) (data : Value) : Entries := [
  ("status", .int r.status), ("statusText", .text r.reason),
  ("headers", .object (r.headers.merged.map fun (n, v) => (n, .text v))),
  ("data", data), ("size", .int r.body.length)]

/-- The body is no JSON, and no text either. -/
structure Illegible (r : Response) : Prop where
  json : ∀ v, Json.readBytes r.body ≠ .ok v
  text : r.charset.Unmarked r.body

theorem exists_reads_iff : (∃ v, r.Reads v) ↔ ¬r.Illegible := by
  have htext : (∃ t, r.text = .ok t) ↔ ¬r.charset.Unmarked r.body := Charset.read_isOk_iff
  constructor
  · rintro ⟨v, hjson | ⟨-, t, ht, -⟩⟩ h
    · exact h.json v hjson
    · exact htext.1 ⟨t, ht⟩ h.text
  · intro h
    by_cases hjson : ∃ v, Json.readBytes r.body = .ok v
    · obtain ⟨v, hv⟩ := hjson
      exact ⟨v, .inl hv⟩
    · have hnone : ∀ v, Json.readBytes r.body ≠ .ok v := fun v hv => hjson ⟨v, hv⟩
      obtain ⟨t, ht⟩ := htext.2 fun hu => h ⟨hnone, hu⟩
      exact ⟨.text t, .inr ⟨hnone, t, ht, rfl⟩⟩

theorem data_eq_ok_iff : r.data = .ok v ↔ r.Reads v := by
  unfold Response.data Reads
  cases Json.readBytes r.body with
  | ok w => simp
  | error e =>
    cases r.text with
    | error f => simp [bind, Except.bind]
    | ok t => simp [bind, Except.bind, pure, Except.pure, eq_comm]

theorem payload_of_reads (h : r.Reads v) : r.payload = .ok (r.shown v) := by
  unfold payload
  rw [data_eq_ok_iff.2 h]
  rfl

theorem payload_of_illegible (h : r.Illegible) : ∃ f, r.payload = .error f := by
  unfold payload
  cases hdata : r.data with
  | ok v => exact absurd h (exists_reads_iff.1 ⟨v, data_eq_ok_iff.1 hdata⟩)
  | error f => exact ⟨f, rfl⟩

end Response
end Web

namespace Action
open HttpCall (parameter)
variable {σ : Type} {e : Equipment} {n : String} {p : Entries}

/-- Making a report sends nothing. -/
theorem undertake_exchanges (name : String) (work : Instant → Work Outcome)
    (c : Context) (o : Outside σ) (now : Instant) (s : σ) :
    exchanges ((undertake name work c).trace o now s) =
      exchanges (((work now).outcome c).trace o now s) := by
  have hclock : exchanges (Activity.now.trace o now s) = [] := rfl
  unfold undertake
  rw [Activity.exchanges_bind, hclock, List.nil_append, Activity.run_now]
  dsimp only
  rw [Activity.exchanges_bind]
  refine (congrArg _ ?_).trans (List.append_nil _)
  apply Activity.Asks.exchanges_eq_nil
  generalize (((work now).outcome c).run o now s).1 = after
  obtain ⟨x, c'⟩ := after
  cases x with
  | error f => exact ⟨id, fun _ => trivial⟩
  | ok out =>
    refine Activity.asks_bind.2 ⟨?_, Activity.yields_of_forall _ fun _ => trivial⟩
    unfold reported
    split
    · exact ⟨id, fun _ => trivial⟩
    · trivial

/-- Without an address nothing is sent, else what the request takes. -/
theorem http_exchanges (e : Equipment) (n : String) (p : Entries)
    (c : Context) (o : Outside σ) (now : Instant) (s : σ) :
    exchanges (((http n p).run e c).trace o now s) =
      if (parameter p "url").truthy then
        exchanges ((HttpCall.received e.client p).trace o now s)
      else [] := by
  unfold run
  rw [undertake_exchanges, http_work, Activity.trace_bind, Activity.trace_done, List.append_nil]
  split
  · next hurl =>
    obtain ⟨after, hafter, -, hasks⟩ := attemptHttp_outcome (e := e) (n := n) hurl now
    rw [hafter, Activity.exchanges_bind, (hasks _).exchanges_eq_nil, List.append_nil]
    rfl
  · next hurl =>
    have hasks : (attemptHttp n e.client p now).outcome.Asks fun e => ¬e.isExchange := by
      unfold attemptHttp
      dsimp only
      rw [if_pos (by simpa using hurl)]
      exact failed_asks n _ now none
    exact hasks.exchanges_eq_nil o now s

/-- What the parameters ask for, with the cookies that go along; nothing where they have no address,
or where no request can be made of them. -/
def HttpCall.request? (p : Entries) (jar : Web.Jar) : Option Web.Request :=
  if (parameter p "url").truthy then
    (ofParameters p).toOption.bind fun call =>
      ((call.draft (parameter p "url")).request jar).toOption
  else none

theorem received_concludes (hurl : (parameter p "url").truthy = true)
    (client : Web.Client) (o : Outside σ) (now : Instant) (s : σ) :
    client.Concludes (HttpCall.request? p (client.remembered o now s))
      (exchanges ((HttpCall.received client p).trace o now s))
        ((HttpCall.received client p).run o now s).1 := by
  unfold HttpCall.received HttpCall.request?
  rw [if_pos hurl, Attempt.outcome_bind, Attempt.outcome_ofExcept, Activity.done_bind]
  cases HttpCall.ofParameters p with
  | error f => exact Web.Client.concludes_nil client f
  | ok call => exact Web.Client.send_concludes client _ o now s

/-- Verdict and response of an action whose request comes to `x`. -/
structure Judges (x : Except Fault Web.Response) (success : Bool) (v : Value) : Prop where
  legible : ∀ response data, x = .ok response → response.Reads data →
    (success = true ↔ response.status < 400 ∨ 600 ≤ response.status) ∧
      v = .object (response.shown data)
  illegible : (∀ response, x = .ok response → response.Illegible) → success = false ∧ v = .null

theorem judges_error (f : Fault) : Judges (.error f) false .null := ⟨nofun, fun _ => ⟨rfl, rfl⟩⟩

theorem judges_received (hurl : (parameter p "url").truthy = true) (x : Except Fault Web.Response) :
    Judges x (successOf p x) (responseOf p x) := by
  unfold successOf responseOf
  rw [hurl]
  cases x with
  | error f => exact judges_error f
  | ok response =>
    dsimp only
    constructor
    · rintro response' data ⟨⟩ hreads
      rw [Web.Response.payload_of_reads hreads]
      refine ⟨?_, rfl⟩
      rw [← Coordinator.isError_eq_false_iff]
      simp [Except.isOk, Except.toBool]
    · intro h
      obtain ⟨f, hf⟩ := Web.Response.payload_of_illegible (h response rfl)
      rw [hf]
      exact ⟨rfl, rfl⟩

/-- What is sent comes to something, and the action is judged by that. -/
theorem http_judges (e : Equipment) (n : String) (p : Entries)
    (c : Context) (o : Outside σ) (now : Instant) (s : σ) :
    ∃ x, e.client.Concludes (HttpCall.request? p (e.client.remembered o now s))
        (exchanges (((http n p).run e c).trace o now s)) x ∧
      Judges x (((http n p).run e c).run o now s).1.1.success
        (((http n p).run e c).run o now s).1.1.response := by
  obtain ⟨hsuccess, hresponse⟩ := http_makes e n p c o now s
  rw [http_exchanges, hsuccess, hresponse]
  cases hurl : (parameter p "url").truthy with
  | true => exact ⟨_, received_concludes hurl e.client o now s, judges_received hurl _⟩
  | false =>
    -- nothing is sent, and any fault stands for that
    let f : Fault := Web.Client.tooManyRedirects
    have hrequest : HttpCall.request? p (e.client.remembered o now s) = none := by
      simp [HttpCall.request?, hurl]
    have hjudges : Judges (.error f) (successOf p ((HttpCall.received e.client p).run o now s).1)
        (responseOf p ((HttpCall.received e.client p).run o now s).1) := by
      simpa [successOf, responseOf, hurl] using judges_error f
    rw [hrequest]
    exact ⟨.error f, Web.Client.concludes_nil e.client f, hjudges⟩

/-- What the parameters ask for is sent, and the redirects that follow from it. The report follows
the final response, if there is one that can be told: a status that is no error makes it a success,
and the payload is that of the response. -/
theorem http_verdict (e : Equipment) (n : String) (p : Entries)
    (c : Context) (o : Outside σ) (now : Instant) (s : σ) :
    let sent := exchanges (((http n p).run e c).trace o now s)
    let outcome := (((http n p).run e c).run o now s).1.1
    sent.head?.map (·.1) = HttpCall.request? p (e.client.remembered o now s) ∧
    e.client.Follows (Web.Client.maxRedirects + 1) sent ∧
    ∃ report, outcome.reports = [report] ∧ report.action = n ∧
      (∀ r response data, e.client.final? sent = some (r, response) → Web.Located r response →
        response.Reads data →
        (report.success = true ↔ response.status < 400 ∨ 600 ≤ response.status) ∧
          outcome.response = .object (response.shown data)) ∧
      ((∀ r response, e.client.final? sent = some (r, response) → Web.Located r response →
          response.Illegible) →
        report.success = false ∧ outcome.response = .null) := by
  dsimp only
  obtain ⟨report, hreports, hname, -⟩ := (run_settles e (http n p) c).run o now s
  obtain ⟨x, hconcludes, hjudges⟩ := http_judges e n p c o now s
  have hsuccess : (((http n p).run e c).run o now s).1.1.success = report.success := by
    simp [Outcome.success, hreports]
  rw [hsuccess] at hjudges
  refine ⟨hconcludes.first, hconcludes.follows, report, hreports, hname, ?_, ?_⟩
  · intro r response data hfinal hlocated hreads
    exact hjudges.legible response data
      ((hconcludes.result response).2 ⟨r, hfinal, hlocated⟩) hreads
  · intro h
    refine hjudges.illegible fun response hx => ?_
    obtain ⟨r, hfinal, hlocated⟩ := (hconcludes.result response).1 hx
    exact h r response hfinal hlocated

def visit : Activity (Outcome × Context) :=
  (http "Http.get" [("url", .text "https://api.test/x")]).run
    ⟨⟨some .targets, true⟩, []⟩ (.ofEntries [])

def visited (w : Rehearsal) : Outcome := (visit.run Rehearsal.outside 0 w).1.1

def statuses (w : Rehearsal) : List Nat :=
  (exchanges (visit.trace Rehearsal.outside 0 w)).filterMap fun x =>
    x.2.toOption.map Web.Response.status

/-- From 600 on a status is no error, and the action is a success; with a text that cannot be read
there is no payload. -/
theorem strange_answers :
    statuses (Coordinator.answering 600 [] "") = [600] ∧
    (visited (Coordinator.answering 600 [] "")).success = true ∧
    statuses (Coordinator.answering 200 [("content-type", "text/plain; charset=utf-16")] "ab") =
      [200] ∧
    (visited (Coordinator.answering 200 [("content-type", "text/plain; charset=utf-16")]
      "ab")).response matches .null := by
  decide +kernel

end Action
end TestWorker
