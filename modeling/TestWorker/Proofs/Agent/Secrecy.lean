import TestWorker.CommandLine
import TestWorker.Proofs.Agent
import TestWorker.Proofs.Coordinator.Secrecy
import TestWorker.Proofs.Cycle.Twins
import TestWorker.Proofs.Job.Alike
import TestWorker.Proofs.Shift.Twins

namespace TestWorker

namespace Worker

def withSecret (w : Worker) (secret : String) : Worker :=
  { w with settings := { w.settings with secret := secret } }

variable {w : Worker} {secret : String}

abbrev Call (w : Worker) (secret : String) : Web.Request → Web.Request → Prop :=
  Coordinator.SameCall w.settings (w.withSecret secret).settings

theorem evaluate_withSecret (w : Worker) (secret : String) (k : Coordinator.Kind) (raw : Value) :
    (w.withSecret secret).evaluate k raw = w.evaluate k raw := by
  cases k <;> rfl

section
variable (hw : Coordinator.Printable w.settings.secret) (hsecret : Coordinator.Printable secret)
include hw hsecret

theorem report_twins (k : Coordinator.Kind) (id : String) (result : Value) :
    Attempt.Twins (w.Call secret) Eq (w.report k id result)
      ((w.withSecret secret).report k id result) := by
  unfold report
  have hdeliver := Coordinator.deliver_twins hw hsecret k id result
  exact (Attempt.Twins.lift hdeliver.outcome).bind_eq fun _ => Attempt.twins_refl _ _

theorem execute_twins (k : Coordinator.Kind) (raw : Value) :
    Attempt.Twins (w.Call secret) Eq (w.execute k raw) ((w.withSecret secret).execute k raw) := by
  rw [execute_eq, execute_eq, evaluate_withSecret]
  refine (Attempt.twins_refl _ (w.evaluate k raw)).bind_eq fun told => ?_
  exact (Attempt.twins_refl _ _).bind_eq fun _ => report_twins hw hsecret k told.id told.result

theorem peers_withSecret : Cycle.Peers (w.Call secret) w (w.withSecret secret) where
  console := rfl
  concurrency := rfl
  fetch k := by
    unfold Cycle.fetch
    refine (Activity.twins_refl _ _).bind_eq fun _ => ?_
    exact (Coordinator.fetch_twins hw hsecret k).outcome.bind_eq fun _ => Activity.twins_refl _ _
  job k raw := (execute_twins hw hsecret k raw).outcome.bind_eq fun _ => Activity.twins_refl _ _

end
end Worker

namespace Agent

def printedIn (log : List (Instant × Effect)) : List Line :=
  log.flatMap fun x => match x.2 with
    | .print lines => lines
    | _ => []

theorem printedIn_congr {C : Web.Request → Web.Request → Prop} {log log' : List (Instant × Effect)}
    (h : List.Forall₂ (Noted C) log log') : printedIn log = printedIn log' := by
  induction h with
  | nil => rfl
  | @cons x y log log' hxy _ ih =>
    obtain ⟨t, e⟩ := x
    obtain ⟨_, e'⟩ := y
    obtain ⟨rfl, he⟩ := hxy
    cases he with
    | same => exact congrArg (_ ++ ·) ih
    | exchange => exact ih

theorem sentIn_forall₂ {C : Web.Request → Web.Request → Prop} {log log' : List (Instant × Effect)}
    (h : List.Forall₂ (Noted C) log log') :
    List.Forall₂ (fun x y => x.1 = y.1 ∧ (x.2 = y.2 ∨ C x.2 y.2)) (sentIn log) (sentIn log') := by
  induction h with
  | nil => exact .nil
  | @cons x y log log' hxy _ ih =>
    obtain ⟨t, e⟩ := x
    obtain ⟨_, e'⟩ := y
    obtain ⟨rfl, he⟩ := hxy
    -- what does not come from a call to the coordinator is the same request in both
    cases he with
    | exchange hqr => exact .cons ⟨rfl, .inr hqr⟩ ih
    | same =>
      cases e with
      | exchange r => exact .cons ⟨rfl, .inl rfl⟩ ih
      | _ => exact ih

def employ (d : Settings.Document) (debug : Bool) (providers : List Provider) : Worker where
  settings := d.settings
  console := ⟨d.logging, debug⟩
  equipment := equipment providers

def recorded {σ : Type} (w : Worker) (calls : List (Nat × Nat)) (o : Outside σ) (fuel : Nat)
    (surroundings : σ) : Crew (σ × List (Instant × Effect)) :=
  serve w o.recording fuel (signalled w calls (crew w (surroundings, [])))

/-- Recorded runs that have taken the same turns. -/
abbrev InStep {σ : Type} (C : Web.Request → Web.Request → Prop) (V : σ → σ → Prop) :
    Crew (σ × List (Instant × Effect)) → Crew (σ × List (Instant × Effect)) → Prop :=
  Crew.Twins C (Shift.Twins (List.Forall₂ (Cycle.Twins C)))
    fun x y => V x.1 y.1 ∧ List.Forall₂ (Noted C) x.2 y.2

theorem recorded_twins {w : Worker} {secret : String} (hw : Coordinator.Printable w.settings.secret)
    (hsecret : Coordinator.Printable secret) (calls : List (Nat × Nat)) {σ : Type} {o : Outside σ}
    {V : σ → σ → Prop} (ho : o.Blind (w.Call secret) V) (fuel : Nat) {u v : σ} (huv : V u v) :
    InStep (w.Call secret) V (recorded w calls o fuel u)
      (recorded (w.withSecret secret) calls o fuel v) := by
  have hpeers := Worker.peers_withSecret hw hsecret
  have hroutine : Routine.Twins (w.Call secret) (List.Forall₂ (Cycle.Twins (w.Call secret)))
      (Cycle.routine w) (Cycle.routine (w.withSecret secret)) := by
    refine ⟨fun n s t hst => ?_, fun now t r s s' hs => Cycle.react_twins hpeers now t r hs⟩
    obtain ⟨hcycle, hstrands⟩ := Cycle.start_twins hpeers n Cycle.kinds
    exact ⟨List.rel_append hst (.cons hcycle .nil), .nil, hstrands⟩
  -- the crews start with the same strands, since the signals are told alike
  have hstart : InStep (w.Call secret) V (signalled w calls (crew w (u, [])))
      (signalled (w.withSecret secret) calls (crew (w.withSecret secret) (v, []))) := by
    rw [signalled_crew, signalled_crew]
    exact ⟨rfl, Strand.forall₂_refl _ _, .nil, ⟨rfl, .nil, rfl⟩, huv, .nil⟩
  exact Shift.serve_twins w.console hroutine ho.recording fuel hstart

section
variable {d d' : Settings.Document} {secret secret' : String}
  (hd : d.get "location_secret" = .text secret)
  (hd' : d'.get "location_secret" = .text secret')
  (hother : ∀ name, name ≠ "location_secret" → d.get name = d'.get name)
include hd' hother

theorem employ_eq_withSecret (debug : Bool) (providers : List Provider) :
    employ d' debug providers = (employ d debug providers).withSecret secret' := by
  have hlogging : d'.logging = d.logging := by
    unfold Settings.Document.logging
    rw [hother "logging" (by decide)]
  have hsecret : (d'.get "location_secret").display = secret' := by
    rw [hd']
    rfl
  unfold employ Worker.withSecret Settings.Document.settings
  rw [hlogging, hsecret, hother "location_key" (by decide), hother "base_url" (by decide),
    hother "location_context" (by decide), hother "batch_size" (by decide),
    hother "frequency" (by decide), hother "max_time" (by decide),
    hother "ignore_ssl" (by decide), hother "concurrency" (by decide),
    hother "strict_placeholders" (by decide)]

include hd

theorem banner_congr (hstart : secret.toList.take 3 = secret'.toList.take 3)
    (c : Console) (version : String) :
    c.banner d version = c.banner d' version := by
  have hmasked : d.masked = d'.masked := by
    unfold Settings.Document.masked
    rw [hd, hd']
    exact congrArg (fun start => Except.ok (String.ofList start ++ "********")) hstart
  unfold Console.banner
  simp only [hmasked, hother "base_url" (by decide), hother "location_key" (by decide),
    hother "location_context" (by decide), hother "frequency" (by decide),
    hother "max_time" (by decide), hother "batch_size" (by decide),
    hother "concurrency" (by decide), hother "ignore_ssl" (by decide)]

end

/-- Runs in which the same is asked for at the same times, but for the secret in the header of the
calls to the coordinator. -/
structure Indistinct {σ : Type} (s t : Settings) (c c' : Crew (σ × List (Instant × Effect))) :
    Prop where
  now : c.now = c'.now
  results : c.state.results = c'.state.results
  printed stream :
    transcript stream (printedIn c.surroundings.2) = transcript stream (printedIn c'.surroundings.2)
  sent : List.Forall₂ (fun x y => x.1 = y.1 ∧ (x.2 = y.2 ∨ Coordinator.SameCall s t x.2 y.2))
    (sentIn c.surroundings.2) (sentIn c'.surroundings.2)
  asked : List.Forall₂ (Noted (Coordinator.SameCall s t)) c.surroundings.2 c'.surroundings.2

/-- The secret goes into one header of the calls to the coordinator and nowhere else, not into what
is printed and not into what the actions of a job send. -/
theorem secret_in_header_only {d d' : Settings.Document} {secret secret' : String}
    (hd : d.get "location_secret" = .text secret) (hd' : d'.get "location_secret" = .text secret')
    (hother : ∀ name, name ≠ "location_secret" → d.get name = d'.get name)
    (hsecret : Coordinator.Printable secret) (hsecret' : Coordinator.Printable secret')
    (hstart : secret.toList.take 3 = secret'.toList.take 3) (version : String)
    (debug : Bool) (providers : List Provider) (calls : List (Nat × Nat)) {σ : Type} {o : Outside σ}
    {V : σ → σ → Prop} (ho : o.Blind (Web.Request.SameBut Coordinator.secretHeader) V)
    {u v : σ} (huv : V u v) (fuel : Nat) :
    (employ d debug providers).console.banner d version =
      (employ d' debug providers).console.banner d' version ∧
      Indistinct d.settings d'.settings (recorded (employ d debug providers) calls o fuel u)
        (recorded (employ d' debug providers) calls o fuel v) ∧
      ∀ k raw, (employ d debug providers).evaluate k raw =
        (employ d' debug providers).evaluate k raw := by
  have hworker := employ_eq_withSecret hd' hother debug providers
  have hsettings : d'.settings = ((employ d debug providers).withSecret secret').settings :=
    congrArg Worker.settings hworker
  have howner : (employ d debug providers).settings.secret = secret := by
    change (d.get "location_secret").display = secret
    rw [hd]
    rfl
  rw [hsettings, hworker]
  refine ⟨banner_congr hd hd' hother hstart _ version, ?_, fun k raw => ?_⟩
  · have hblind : o.Blind ((employ d debug providers).Call secret') V :=
      ho.mono fun q r hqr => hqr.sameBut
    have htwins := recorded_twins (howner.symm ▸ hsecret) hsecret' calls hblind fuel huv
    have hlog := htwins.surroundings.2
    exact ⟨htwins.now, htwins.state.results,
      fun stream => congrArg (transcript stream) (printedIn_congr hlog), sentIn_forall₂ hlog, hlog⟩
  · exact (Worker.evaluate_withSecret _ _ k raw).symm

end Agent

namespace Rehearsal

/-- Scripts in the same place, whatever requests have come. -/
structure Alike (v w : Rehearsal) : Prop where
  script : v.script = w.script
  targets : v.targets = w.targets
  coordinator : v.coordinator = w.coordinator
  events : v.record.events = w.record.events
  printed : v.record.printed = w.record.printed

variable {v w : Rehearsal} {q r : Web.Request}

theorem pick_congr (hmethod : q.method = r.method) (hurl : q.url = r.url) (rules : List Rule) :
    pick q rules = pick r rules := by
  induction rules with
  | nil => rfl
  | cons rule rules ih =>
    unfold pick Rule.fits
    rw [hmethod, hurl, ih]

theorem exchange_alike (h : v.Alike w) (hmethod : q.method = r.method)
    (hurl : q.url = r.url) (now : Instant) :
    (v.exchange q now).1 = (w.exchange r now).1 ∧ (v.exchange q now).2.1 = (w.exchange r now).2.1 ∧
      (v.exchange q now).2.2.Alike (w.exchange r now).2.2 := by
  obtain ⟨script, targets, coordinator, past⟩ := v
  obtain ⟨_, _, _, past'⟩ := w
  obtain ⟨rfl, rfl, rfl, hevents, hprinted⟩ := h
  unfold exchange
  dsimp only
  rw [hurl, pick_congr hmethod hurl]
  cases carried r.url with
  | error f => exact ⟨rfl, rfl, rfl, rfl, rfl, hevents, hprinted⟩
  | ok =>
    cases pick r script.rules with
    | none => exact ⟨rfl, rfl, rfl, rfl, rfl, hevents, hprinted⟩
    | some x => exact ⟨rfl, rfl, rfl, rfl, rfl, hevents, hprinted⟩

theorem answerQuery_alike (h : v.Alike w) (s : Database.Statement) :
    (v.answerQuery s).1 = (w.answerQuery s).1 ∧ (v.answerQuery s).2.1 = (w.answerQuery s).2.1 ∧
      (v.answerQuery s).2.2.Alike (w.answerQuery s).2.2 := by
  obtain ⟨script, targets, coordinator, past⟩ := v
  obtain ⟨_, _, _, past'⟩ := w
  obtain ⟨rfl, rfl, rfl, hevents, hprinted⟩ := h
  have hnoted := congrArg (· ++ [Database.Event.execute s]) hevents
  unfold answerQuery
  dsimp only [note]
  cases script.results with
  | nil => exact ⟨rfl, rfl, rfl, rfl, rfl, hnoted, hprinted⟩
  | cons a rest => exact ⟨rfl, rfl, rfl, rfl, rfl, hnoted, hprinted⟩

/-- A script answers by method and address alone. -/
theorem outside_blind (name : String) : outside.Blind (Web.Request.SameBut name) Alike where
  same {v w} e now h := by
    cases e with
    | exchange r =>
      obtain ⟨hvalue, hdelay, hstate⟩ := exchange_alike h (q := r) (r := r) rfl rfl now
      exact ⟨hvalue, hdelay, hstate⟩
    | query s =>
      obtain ⟨hvalue, hdelay, hstate⟩ := answerQuery_alike h s
      exact ⟨hvalue, hdelay, hstate⟩
    | cookies s =>
      cases s with
      | targets => exact ⟨h.targets, rfl, h⟩
      | coordinator => exact ⟨h.coordinator, rfl, h⟩
    | remember s u lines =>
      cases s with
      | targets =>
        exact ⟨rfl, rfl, { h with targets := congrArg (Web.Jar.keep · u lines) h.targets }⟩
      | coordinator =>
        exact ⟨rfl, rfl, { h with coordinator := congrArg (Web.Jar.keep · u lines) h.coordinator }⟩
    | print lines => exact ⟨rfl, rfl, { h with printed := congrArg (· ++ lines) h.printed }⟩
    | step s =>
      exact ⟨rfl, rfl, { h with events := congrArg (· ++ [Database.Event.step s]) h.events }⟩
    | clock => exact ⟨rfl, rfl, h⟩
    | draw d => exact ⟨rfl, rfl, h⟩
    | pause d => exact ⟨rfl, rfl, h⟩
  exchange now hqr h := by
    obtain ⟨hvalue, hdelay, hstate⟩ := exchange_alike h hqr.method hqr.url now
    exact ⟨hvalue, hdelay, hstate⟩

end Rehearsal

namespace Agent

def keyed (secret : String) : Settings.Document where
  values := [
    ("location_secret", .text secret), ("location_key", .text "key"),
    ("base_url", .text "https://coordinator.test"), ("logging", .text "cli"),
    ("batch_size", .int 5)]

def keyedRun (secret : String) : Crew (Rehearsal × List (Instant × Effect)) :=
  recorded (employ (keyed secret) false []) [] Rehearsal.outside
    60 { script := { rules := oneRequest } }

theorem secret_in_header_only_oneRequest :
    (sentIn (keyedRun "abc-one").surroundings.2).map (·.2.headers.get? Coordinator.secretHeader) =
      [some "abc-one", some "abc-one", none, some "abc-one"] ∧
    (employ (keyed "abc-one") false []).console.banner (keyed "abc-one") CommandLine.version =
      (employ (keyed "abc-two") false []).console.banner (keyed "abc-two") CommandLine.version ∧
    Indistinct (keyed "abc-one").settings (keyed "abc-two").settings (keyedRun "abc-one")
      (keyedRun "abc-two") := by
  have hother : ∀ name, name ≠ "location_secret" →
      (keyed "abc-one").get name = (keyed "abc-two").get name := by
    intro name hname
    have hname : (name == "location_secret") = false := beq_eq_false_iff_ne.2 hname
    simp only [Settings.Document.get, keyed, Entries.get?, List.lookup_cons, hname]
  have hone : (keyed "abc-one").get "location_secret" = .text "abc-one" := rfl
  have htwo : (keyed "abc-two").get "location_secret" = .text "abc-two" := rfl
  obtain ⟨hbanner, hruns, -⟩ :=
    secret_in_header_only hone htwo hother (by decide) (by decide) (by decide)
    CommandLine.version false [] [] (Rehearsal.outside_blind _)
      (u := { script := { rules := oneRequest } })
    ⟨rfl, rfl, rfl, rfl, rfl⟩ 60
  exact ⟨by decide +kernel, hbanner, hruns⟩

end Agent
end TestWorker
