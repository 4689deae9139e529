import TestWorker.Cycle
import TestWorker.Proofs.Coordinator.Delivery
import TestWorker.Proofs.Job.Alike

namespace TestWorker

theorem requestsOf_append (bs cs : List Beat) :
    requestsOf (bs ++ cs) = requestsOf bs ++ requestsOf cs := by
  simp [requestsOf, exchanges]

theorem requestsOf_cons_of_not_exchange {b : Beat} (h : ¬b.effect.isExchange) (bs : List Beat) :
    requestsOf (b :: bs) = requestsOf bs := by
  obtain ⟨⟨t, e, r⟩, d⟩ := b
  cases e with
  | exchange q => exact absurd trivial h
  | _ => rfl

/-- The coordinator's cookies are asked for, which is where a report begins. -/
def Beat.reports (b : Beat) : Bool := b.effect matches .cookies .coordinator

/-- The beats before the report of a job. -/
def evaluation (bs : List Beat) : List Beat := bs.takeWhile fun b => !b.reports

def reporting (bs : List Beat) : List Beat := bs.dropWhile fun b => !b.reports

def posts (bs : List Beat) : List (String × Web.Url × Text.Bytes) :=
  (requestsOf bs).map fun r => (r.method, r.url, r.body)

namespace Activity
variable {α β : Type} {a : Activity α} {b : Activity α} {now later : Instant} {bs : List Beat}

theorem Goes.requestsOf_eq_nil (h : Goes now a bs later b) (ha : a.Asks fun e => ¬e.isExchange) :
    requestsOf bs = [] := by
  induction h with
  | stay => rfl
  | reply _ _ ih =>
    rw [requestsOf_cons_of_not_exchange ha.1]
    exact ih (ha.2 _)

theorem Goes.sends {P : Web.Request → Prop} {Q : Except Fault Web.Response → α → Prop} {x : α}
    (h : Goes now a bs later (.done x)) (ha : a.Sends P Q) : ∃ r, requestsOf bs = [r] ∧ P r := by
  generalize hb : Activity.done x = b at h
  induction h with
  | stay now a =>
    subst hb
    exact ha.elim
  | @reply _ _ e _ _ _ _ _ _ hrest ih =>
    cases e with
    | exchange q =>
      have hnone := hrest.requestsOf_eq_nil (ha.2 _).1
      exact ⟨q, congrArg (q :: ·) hnone, ha.1⟩
    | _ => exact ih (ha _) hb

/-- Nothing is sent before a report begins. -/
def Defers : Activity α → Prop
  | done _ => True
  | ask e next => ¬e.isExchange ∧ (e = .cookies .coordinator ∨ ∀ r, (next r).Defers)

theorem Asks.defers (h : a.Asks fun e => ¬e.isExchange) : a.Defers := by
  induction a with
  | done x => trivial
  | ask e next ih => exact ⟨h.1, .inr fun r => ih r (h.2 r)⟩

theorem Defers.bind {f : α → Activity β} (h : a.Defers) (hf : ∀ x, (f x).Defers) :
    (a >>= f).Defers := by
  induction a with
  | done x => exact hf x
  | ask e next ih => exact ⟨h.1, h.2.imp id fun hnext r => ih r (hnext r)⟩

theorem Goes.evaluation_of_defers (h : Goes now a bs later b) (ha : a.Defers) :
    requestsOf (evaluation bs) = [] := by
  induction h with
  | stay => rfl
  | @reply now _ e _ r d beats _ _ _ ih =>
    rw [evaluation, List.takeWhile_cons]
    split
    · next hreports =>
      rw [requestsOf_cons_of_not_exchange ha.1]
      refine ih (ha.2.resolve_left ?_ r)
      rintro rfl
      cases hreports
    · rfl

end Activity

namespace Worker
variable {w : Worker} {k : Coordinator.Kind} {raw : Value}

def conclude (c : Console) (name : String) : Except Fault Unit → Activity Bool
  | .ok () => return true
  | .error f => do
    Activity.print (jobFailure c name f)
    return false

def finish (w : Worker) (k : Coordinator.Kind) (raw : Value) : Except Fault Told → Activity Bool
  | .ok told => (w.tell k told).outcome >>= conclude w.console (jobName raw)
  | .error f => conclude w.console (jobName raw) (.error f)

theorem job_eq (w : Worker) (k : Coordinator.Kind) (raw : Value) :
    Cycle.job w k raw = (w.evaluate k raw).outcome >>= w.finish k raw := by
  have hisolated : Cycle.job w k raw =
    (w.execute k raw).outcome >>= conclude w.console (jobName raw) := rfl
  rw [hisolated, execute_eq, Attempt.outcome_bind, Activity.bind_assoc]
  refine congrArg (bind _) (funext fun x => ?_)
  cases x <;> rfl

theorem conclude_asks (c : Console) (name : String) (x : Except Fault Unit) :
    (conclude c name x).Asks fun e => ¬e.isExchange := by
  cases x with
  | ok _ => trivial
  | error f =>
    exact Activity.asks_bind.2 ⟨print_asks _, Activity.yields_of_forall _ fun _ => trivial⟩

theorem tell_outcome (w : Worker) (k : Coordinator.Kind) (told : Told) :
    (w.tell k told).outcome =
      Activity.print told.lines >>= fun _ => (w.report k told.id told.result).outcome := by
  unfold tell
  rw [Attempt.outcome_bind, Attempt.outcome_liftM, Activity.bind_assoc]
  rfl

theorem report_defers (w : Worker) (k : Coordinator.Kind) (id : String) (v : Value) :
    (w.report k id v).outcome.Defers := by
  rw [report_outcome, Coordinator.deliver_outcome, Coordinator.send_outcome]
  exact ⟨fun h => h, .inl rfl⟩

theorem finish_defers (w : Worker) (k : Coordinator.Kind) (raw : Value) (x : Except Fault Told) :
    (w.finish k raw x).Defers := by
  cases x with
  | error f => exact (conclude_asks w.console (jobName raw) (.error f)).defers
  | ok told =>
    refine Activity.Defers.bind ?_ fun x => (conclude_asks _ _ x).defers
    rw [tell_outcome]
    exact (print_asks told.lines).defers.bind fun _ => report_defers w k told.id told.result

theorem finish_sends {told : Told} {P : Web.Request → Prop}
    {Q : Except Fault Web.Response → Except Fault Unit → Prop} (raw : Value)
    (h : (w.report k told.id told.result).outcome.Sends P Q) :
    (w.finish k raw (.ok told)).Sends P fun _ _ => True := by
  have htell : (w.tell k told).outcome.Sends P Q := by
    rw [tell_outcome]
    exact Activity.sends_after (print_asks _) (Activity.yields_of_forall _ fun _ => h)
  exact htell.bind fun _ y _ => ⟨conclude_asks _ _ y, Activity.yields_of_forall _ fun _ => trivial⟩

/-- What is posted about a job is a matter of what is told. -/
theorem finish_posts (w : Worker) (k : Coordinator.Kind) (raw : Value) (x : Except Fault Told) :
    ∃ ps, ∀ now bs later r, (w.finish k raw x).Goes now bs later (.done r) → posts bs = ps := by
  have hnothing : (w.finish k raw x).Asks (fun e => ¬e.isExchange) →
      ∃ ps, ∀ now bs later r, (w.finish k raw x).Goes now bs later (.done r) → posts bs = ps := by
    refine fun hasks => ⟨[], fun now bs later r h => ?_⟩
    rw [posts, h.requestsOf_eq_nil hasks]
    rfl
  cases x with
  | error f => exact hnothing (conclude_asks w.console (jobName raw) (.error f))
  | ok told =>
    by_cases hsendable : Coordinator.Sendable w.settings k told.id told.result
    · obtain ⟨u, -, hsends⟩ := report_sends hsendable
      refine ⟨[("POST", u, Text.utf8Bytes (Json.text Json.compact told.result))],
        fun now bs later r h => ?_⟩
      obtain ⟨q, hq, hmethod, hurl, hbody⟩ := h.sends (finish_sends raw hsends)
      rw [posts, hq, List.map_singleton, hmethod, hurl, hbody]
    · refine hnothing
        (Activity.asks_bind.2 ⟨?_, Activity.yields_of_forall _ fun y => conclude_asks _ _ y⟩)
      rw [tell_outcome]
      exact Activity.asks_bind.2 ⟨print_asks _, Activity.yields_of_forall _ fun _ =>
        (report_of_not_sendable hsendable).1⟩

end Worker

theorem evaluation_append {bs : List Beat} (h : ∀ b ∈ bs, b.effect ≠ .cookies .coordinator)
    (cs : List Beat) :
    evaluation (bs ++ cs) = bs ++ evaluation cs ∧ reporting (bs ++ cs) = reporting cs := by
  have hreports : ∀ b ∈ bs, (!b.reports) = true := by
    intro b hb
    have heffect := h b hb
    unfold Beat.reports
    split
    · next hcookies => exact absurd hcookies heffect
    · rfl
  exact ⟨List.takeWhile_append_of_pos hreports, List.dropWhile_append_of_pos hreports⟩

variable {w : Worker} {k : Coordinator.Kind} {raw : Value} {bs : List Beat}
  {r : Bool} {now later : Instant}

/-- The beats of a job, taken apart where its evaluation ends: what is sent before the report is
sent by the evaluation, and what is posted is a matter of what it comes to. -/
theorem goes_job (hclient : w.equipment.client.session ≠ some .coordinator)
    (h : (Cycle.job w k raw).Goes now bs later (.done r)) :
    ∃ b₁ b₂ mid x, (w.evaluate k raw).outcome.Goes now b₁ mid (.done x) ∧
      (w.finish k raw x).Goes mid b₂ later (.done r) ∧ evaluation bs = b₁ ++ evaluation b₂ ∧
      requestsOf (evaluation bs) = requestsOf b₁ ∧ posts (reporting bs) = posts b₂ := by
  rw [Worker.job_eq] at h
  obtain ⟨b₁, mid, x, b₂, rfl, hfirst, hsecond⟩ := Activity.goes_bind h
  have hasks := (Worker.evaluate_alike ⟨False, 0, 0⟩ hclient k raw).asks fun htimed => htimed
  obtain ⟨hevaluation, hreporting⟩ := evaluation_append (hfirst.asks hasks) b₂
  have hnothing := hsecond.evaluation_of_defers (Worker.finish_defers w k raw x)
  refine ⟨b₁, b₂, mid, x, hfirst, hsecond, hevaluation, ?_, ?_⟩
  · rw [hevaluation, requestsOf_append, hnothing, List.append_nil]
  · have hall : requestsOf b₂ = requestsOf (reporting b₂) := by
      rw [← List.nil_append (requestsOf (reporting b₂)), ← hnothing, ← requestsOf_append,
        evaluation, reporting,
        List.takeWhile_append_dropWhile]
    rw [hreporting, posts, posts, hall]

/-- A job sends the same requests in two runs that reply to it alike, and where its replies take as
long, the same is posted. -/
theorem job_apart (hclient : w.equipment.client.session ≠ some .coordinator)
    {reply : (e : Effect) → e.Reply} {delay : Effect → Nat} {jar : Web.Jar} {s t s' t' : Instant}
    {cs : List Beat} {r' : Bool} (hb : (Cycle.job w k raw).Goes s bs s' (.done r))
    (hc : (Cycle.job w k raw).Goes t cs t' (.done r')) (hbs : Apart reply jar (evaluation bs))
    (hcs : Apart reply jar (evaluation cs)) :
    requestsOf (evaluation bs) = requestsOf (evaluation cs) ∧
      (Takes delay (evaluation bs) → Takes delay (evaluation cs) →
        posts (reporting bs) = posts (reporting cs)) := by
  obtain ⟨b₁, b₂, _, x, hb₁, hb₂, hbeval, hbsent, hbposts⟩ := goes_job hclient hb
  obtain ⟨c₁, c₂, _, y, hc₁, hc₂, hceval, hcsent, hcposts⟩ := goes_job hclient hc
  rw [hbeval] at hbs
  rw [hceval] at hcs
  constructor
  · have htakes : False → Takes delay b₁ ∧ Takes delay c₁ := nofun
    obtain ⟨hsame, -⟩ :=
      (Worker.evaluate_alike ⟨False, s, t⟩ hclient k raw).goes hb₁ hc₁ hbs.of_append
      hcs.of_append htakes nofun
    rw [hbsent, hcsent, hsame]
  · intro htakes htakes'
    rw [hbeval] at htakes
    rw [hceval] at htakes'
    have htaken : Takes delay b₁ ∧ Takes delay c₁ :=
      ⟨(List.forall_mem_append.1 htakes).1, (List.forall_mem_append.1 htakes').1⟩
    -- the clocks go side by side from where the job begins in either run
    obtain ⟨-, htold⟩ :=
      (Worker.evaluate_alike ⟨True, s, t⟩ hclient k raw).goes hb₁ hc₁ hbs.of_append
      hcs.of_append (fun _ => htaken) fun _ => Nat.add_comm s t
    obtain rfl : x = y := eq_of_exceptAlike (exceptAlike_mono htold fun _ _ hxy => hxy trivial)
    obtain ⟨ps, hps⟩ := Worker.finish_posts w k raw x
    rw [hbposts, hcposts, hps _ _ _ _ hb₂, hps _ _ _ _ hc₂]

end TestWorker
