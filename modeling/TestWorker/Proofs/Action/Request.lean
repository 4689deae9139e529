import TestWorker.Proofs.Action.Evaluation
import TestWorker.Proofs.Json.Strict

namespace TestWorker.Action
variable {σ : Type}

def HttpCall.received (client : Web.Client) (p : Entries) : Activity (Except Fault Web.Response) :=
  Attempt.outcome do
    client.send ((← Attempt.ofExcept (HttpCall.ofParameters p)).draft (HttpCall.parameter p "url"))

def responseOf (p : Entries) (received : Except Fault Web.Response) : Value :=
  match (HttpCall.parameter p "url").truthy, received with
  | true, .ok r => match r.payload with
    | .ok es => .object es
    | .error _ => .null
  | _, _ => .null

def successOf (p : Entries) (received : Except Fault Web.Response) : Bool :=
  match (HttpCall.parameter p "url").truthy, received with
  | true, .ok r => r.payload.isOk && !r.isError
  | _, _ => false

/-- An outcome with the verdict and the response; a fault is a failure and has none. -/
def Makes (success : Bool) (v : Value) : Except Fault Outcome → Prop
  | .ok out => out.success = success ∧ out.response = v ∧ out.reports ≠ []
  | .error _ => success = false ∧ v = .null

theorem failed_makes (name summary : String) (started : Instant) (details : Option String) :
    (failed name summary started details).outcome.Yields (Makes false .null) := by
  intro t
  exact ⟨rfl, rfl, by simp⟩

theorem attemptHttp_makes (n : String) (client : Web.Client) (p : Entries) (started : Instant)
    (o : Outside σ) (now : Instant) (s : σ) :
    Makes (successOf p ((HttpCall.received client p).run o now s).1)
      (responseOf p ((HttpCall.received client p).run o now s).1)
      ((attemptHttp n client p started).outcome.run o now s).1 := by
  unfold attemptHttp
  dsimp only
  split
  · rename_i hurl
    -- nothing is sent without an address, so that it does not matter what would be received
    have hnull : ∀ x, successOf p x = false ∧ responseOf p x = .null := by
      intro x
      simp only [Bool.not_eq_eq_eq_not, Bool.not_true] at hurl
      simp [successOf, responseOf, hurl]
    rw [(hnull _).1, (hnull _).2]
    have h := (failed_makes n "URL must be provided, got none" started none).run o now s
    simpa using h
  · rename_i hurl
    have hurl' : (HttpCall.parameter p "url").truthy = true := by simpa using hurl
    rw [Attempt.outcome_bind, Attempt.outcome_liftM, Activity.bind_assoc]
    refine Activity.yields_run_bind
      (P := fun x => Makes (successOf p x) (responseOf p x)) (fun x => ?_)
      (HttpCall.received client p) o now s
    rw [Activity.done_bind]
    cases x with
    | error f =>
      have hnull : successOf p (.error f) = false ∧ responseOf p (.error f) = .null := by
        simp [successOf, responseOf, hurl']
      rw [hnull.1, hnull.2]
      cases f with
      | transport kind message => exact failed_makes n _ started _
      | _ => exact ⟨rfl, rfl⟩
    | ok r =>
      have hsuccess : successOf p (.ok r) = (r.payload.isOk && !r.isError) := by
        simp [successOf, hurl']
      have hpayload : responseOf p (.ok r) = match r.payload with
          | .ok es => .object es
          | .error _ => .null := by simp [responseOf, hurl']
      rw [hsuccess, hpayload]
      dsimp only
      rw [Attempt.outcome_bind, Attempt.outcome_ofExcept, Activity.done_bind]
      cases r.payload with
      | error f => exact ⟨rfl, rfl⟩
      | ok es =>
        intro t
        exact ⟨Bool.and_true _, rfl, by simp⟩

theorem undertake_makes {name : String} {work : Instant → Work Outcome}
    {c : Context} {success : Bool} {v : Value} {o : Outside σ}
    {now : Instant} {s : σ} (h : Makes success v (((work now).outcome c).run o now s).1.1) :
    ((undertake name work c).run o now s).1.1.success = success ∧
      ((undertake name work c).run o now s).1.1.response = v := by
  unfold undertake
  rw [Activity.run_bind, Activity.run_now]
  dsimp only
  rw [Activity.run_bind]
  generalize ((work now).outcome c).run o now s = y at h ⊢
  obtain ⟨⟨x, c'⟩, t, s'⟩ := y
  cases x with
  | error f => exact ⟨h.1.symm, h.2.symm⟩
  | ok out =>
    obtain ⟨hsuccess, hresponse, hreports⟩ := h
    have hne : out.reports.isEmpty = false := by simpa using hreports
    simp [Activity.run_bind, reported, hne, hsuccess, hresponse]

theorem http_makes (e : Equipment) (n : String) (p : Entries) (c : Context) (o : Outside σ)
    (now : Instant) (s : σ) :
    (((http n p).run e c).run o now s).1.1.success =
        successOf p ((HttpCall.received e.client p).run o now s).1 ∧
      (((http n p).run e c).run o now s).1.1.response =
        responseOf p ((HttpCall.received e.client p).run o now s).1 := by
  apply undertake_makes
  rw [http_work, Activity.run_bind]
  exact attemptHttp_makes n e.client p now o now s

theorem http_response (e : Equipment) (n : String) (p : Entries) (c : Context) (o : Outside σ)
    (now : Instant) (s : σ) :
    (((http n p).run e c).run o now s).1.1.response =
      responseOf p ((HttpCall.received e.client p).run o now s).1 :=
  (http_makes e n p c o now s).2

/-- The fields that a response has for the coordinator. -/
def toldFields (p : Entries) (received : Except Fault Web.Response) : Entries :=
  match (HttpCall.parameter p "url").truthy, received with
  | true, .ok r => match r.data with
    | .ok data =>
      [("data", data), ("headers", .object (r.headers.merged.map fun (n, v) => (n, .text v))),
      ("status", .int r.status)]
    | .error _ => []
  | _, _ => []

theorem projectResponse_responseOf (p : Entries) (received : Except Fault Web.Response) :
    projectResponse (responseOf p received) = .ok (toldFields p received) := by
  unfold responseOf toldFields
  cases (HttpCall.parameter p "url").truthy with
  | false => rfl
  | true =>
    cases received with
    | error f => rfl
    | ok r =>
      dsimp only [Web.Response.payload]
      cases r.data <;> rfl

end TestWorker.Action
