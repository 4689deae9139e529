import TestWorker.Proofs.Agent.Secrecy
import TestWorker.Proofs.Cycle.Hushed
import TestWorker.Proofs.Cycle.Insertion
import TestWorker.Proofs.Entries
import TestWorker.Proofs.Shift.Hushed

namespace TestWorker

theorem transcript_append (s : Stream) (lines more : List Line) :
    transcript s (lines ++ more) = transcript s lines ++ transcript s more := by
  rw [transcript, List.filter_append, List.map_append, String.join_append]
  rfl

theorem transcript_eq_empty {s : Stream} {lines : List Line} (h : ∀ l ∈ lines, l.stream ≠ s) :
    transcript s lines = "" := by
  have hnone : lines.filter (·.stream == s) = [] := by simpa using h
  rw [transcript, hnone]
  rfl

namespace Console
variable {hears : List Line → Bool}

theorem hushed_off (hout : ∀ text, hears [⟨.out, text⟩] = false)
    (herr : ∀ lines, lines ≠ [] → Line.Errors lines → hears lines = true) (debug : Bool) :
    Console.Hushed hears ⟨.on, debug⟩ ⟨.off, debug⟩ where
  progress text := by
    change hush hears [⟨.out, text⟩] = []
    rw [hush, hout]
    rfl
  errors {lines} hlines := by
    cases lines with
    | nil => exact ite_self _
    | cons line lines => exact if_pos (herr _ (List.cons_ne_nil _ _) hlines)
  debug := rfl

theorem hushed_any_off (debug : Bool) :
    Console.Hushed (fun lines => lines.any (·.stream == .err)) ⟨.on, debug⟩ ⟨.off, debug⟩ := by
  refine hushed_off (fun _ => rfl) (fun lines hne hlines => ?_) debug
  obtain ⟨line, hline⟩ := List.exists_mem_of_ne_nil lines hne
  exact List.any_eq_true.2 ⟨line, hline, beq_iff_eq.2 (hlines line hline)⟩

theorem hushed_all_off (debug : Bool) :
    Console.Hushed (fun lines => lines.all (·.stream == .err)) ⟨.on, debug⟩ ⟨.off, debug⟩ :=
  hushed_off (fun _ => rfl)
    (fun _ _ hlines => List.all_eq_true.2 fun line hline => beq_iff_eq.2 (hlines line hline)) debug

theorem hushed_cli (debug : Bool) : Console.Hushed (fun _ => true) ⟨.on, debug⟩ ⟨.cli, debug⟩ :=
  ⟨fun _ => rfl, fun _ => rfl, rfl⟩

end Console

namespace Settings.Document
variable (d : Document) (level : Logging)

/-- The same settings at another level of logging. -/
def logged : Document := ⟨Entries.put d.values "logging" (.text level.name)⟩

theorem get_logged {name : String} (h : name ≠ "logging") :
    (d.logged level).get name = d.get name := by
  rw [get, logged, Entries.get?_put, if_neg h]
  rfl

theorem logging_logged : (d.logged level).logging = Logging.ofName level.name := by
  rw [logging, get, logged, Entries.get?_put, if_pos rfl]
  rfl

end Settings.Document

namespace Agent
variable {σ : Type} {hears : List Line → Bool}

theorem employ_logged (d : Settings.Document) (level before : Logging)
    (debug : Bool) (providers : List Provider) :
    employ (d.logged level) debug providers =
      (employ (d.logged before) debug providers).withLogging (Logging.ofName level.name) := by
  unfold employ Worker.withLogging Settings.Document.settings
  simp only [Settings.Document.logging_logged]
  simp (disch := decide) only [Settings.Document.get_logged]

/-- All that has been asked for but to print, in order. -/
def deedsIn (log : List (Instant × Effect)) : List (Instant × Effect) :=
  log.filter fun x => match x.2 with
    | .print _ => false
    | _ => true

theorem deedsIn_hushedLog (log : List (Instant × Effect)) :
    deedsIn (hushedLog hears log) = deedsIn log := by
  unfold deedsIn hushedLog
  rw [List.filter_filter]
  refine List.filter_congr fun x _ => ?_
  obtain ⟨t, e⟩ := x
  cases e <;> rfl

theorem sentIn_deedsIn (log : List (Instant × Effect)) : sentIn (deedsIn log) = sentIn log := by
  unfold sentIn deedsIn
  rw [List.filterMap_filter]
  refine List.filterMap_congr fun x _ => ?_
  obtain ⟨t, e⟩ := x
  cases e <;> rfl

theorem transcript_hushedLog {s : Stream}
    (h : ∀ lines, hears lines = true → ∀ l ∈ lines, l.stream ≠ s) (log : List (Instant × Effect)) :
    transcript s (printedIn (hushedLog hears log)) = "" := by
  refine transcript_eq_empty fun l hl => ?_
  obtain ⟨⟨t, e⟩, hx, hl⟩ := List.mem_flatMap.1 hl
  obtain ⟨-, hheard⟩ := List.mem_filter.1 hx
  cases e with
  | print lines =>
    refine h lines ?_ l hl
    by_contra hnot
    simp [Effect.hushed, hnot] at hheard
  | _ => cases hl

/-- All is left of a stream that is always heard. -/
theorem transcript_hushedLog_of_heard {s : Stream}
    (h : ∀ lines, hears lines = false → ∀ l ∈ lines, l.stream ≠ s) (log : List (Instant × Effect)) :
    transcript s (printedIn (hushedLog hears log)) = transcript s (printedIn log) := by
  induction log with
  | nil => rfl
  | cons x log ih =>
    obtain ⟨t, e⟩ := x
    cases e with
    | print lines =>
      change _ = transcript s (lines ++ printedIn log)
      rw [transcript_append, ← ih]
      cases hheard : hears lines with
      | true =>
        have hkept : hushedLog hears ((t, .print lines) :: log) =
            (t, .print lines) :: hushedLog hears log := by
          simp [hushedLog, Effect.hushed, hheard]
        rw [hkept]
        exact transcript_append s lines _
      | false =>
        have hleft : hushedLog hears ((t, .print lines) :: log) = hushedLog hears log := by
          simp [hushedLog, Effect.hushed, hheard]
        rw [hleft, transcript_eq_empty (h lines hheard), String.empty_append]
    | _ => exact ih

section
variable {w : Worker} {level : Logging}

theorem routine_hushed (h : w.Hushed hears level) :
    Routine.Hushed hears (List.map (Cycle.hushed hears)) (Cycle.routine w)
      (Cycle.routine (w.withLogging level)) where
  begin n cs := by
    have hfetches : (Cycle.kinds.map fun k =>
        (⟨.fetch n k, Cycle.fetch w k⟩ : Strand Cycle.Tag.Result)).map (Strand.hushed hears) =
          Cycle.kinds.map fun k => ⟨.fetch n k, Cycle.fetch (w.withLogging level) k⟩ := by
      rw [List.map_map]
      exact List.map_congr_left fun k _ =>
        congrArg (Strand.mk (ρ := Cycle.Tag.Result) (.fetch n k)) (Cycle.fetch_hushed h k)
    unfold Cycle.routine Cycle.start Reaction.hushed
    dsimp only
    rw [List.map_append, hfetches]
    rfl
  react now t result cs := Cycle.react_hushed h now t result cs

theorem stops_hushed (h : w.Hushed hears level) (calls : List (Nat × Nat)) :
    (stops (w.withLogging level) calls).map
      (fun x => Shift.stopStrand (ρ := Cycle.Tag.Result) x.1 x.2) =
      ((stops w calls).map fun x => Shift.stopStrand x.1 x.2).map (Strand.hushed hears) := by
  unfold stops
  simp only [List.map_map]
  refine List.map_congr_left fun call _ => ?_
  exact congrArg (fun a => Strand.mk (ρ := Shift.Tag.Result Cycle.Tag.Result) .stop
    (Activity.pause call.1 >>= fun _ => a)) (h.print_progress _).symm

theorem recorded_hushed (h : w.Hushed hears level) (calls : List (Nat × Nat))
    {o : Outside σ} {V : σ → σ → Prop} (ho : o.Deaf V) (fuel : Nat) {u v : σ} (huv : V u v) :
    Crew.Hushed hears (Shift.hushed (List.map (Cycle.hushed hears))) V (recorded w calls o fuel u)
      (recorded (w.withLogging level) calls o fuel v) := by
  refine Shift.serve_hushed h (routine_hushed h) ho fuel ?_
  rw [signalled_crew, signalled_crew, Shift.waiting, Shift.waiting, stops_hushed h]
  exact ⟨huv, rfl⟩

end

def printout (c : Console) (log : List (Instant × Effect)) (fault : Option Fault) : List Line :=
  printedIn log ++ fault.elim [] fun f => (CommandLine.broken c f).2

/-- All that a worker prints, its settings first. -/
def output (d : Settings.Document) (version : String) (log : List (Instant × Effect))
    (fault : Option Fault) : Except Fault (List Line) := do
  let c : Console := ⟨d.logging, false⟩
  return (← c.banner d version) ++ printout c log fault

/-- Runs in which the same is asked for at the same times, but for what is printed, and as many
cycles are carried out. -/
structure SameDeeds (c c' : Crew (σ × List (Instant × Effect))) : Prop where
  now : c.now = c'.now
  cycles : c.state.results = c'.state.results
  deeds : deedsIn c.surroundings.2 = deedsIn c'.surroundings.2
  sent : sentIn c.surroundings.2 = sentIn c'.surroundings.2

theorem sameDeeds_of_hushed {f : List Cycle → List Cycle} {V : σ → σ → Prop}
    {c d : Crew (σ × List (Instant × Effect))} (h : Crew.Hushed hears (Shift.hushed f) V c d) :
    SameDeeds d c := by
  have hdeeds : deedsIn d.surroundings.2 = deedsIn c.surroundings.2 := by
    rw [h.surroundings.log, deedsIn_hushedLog]
  refine ⟨h.now, ?_, hdeeds, ?_⟩
  · rw [h.state]
    rfl
  · rw [← sentIn_deedsIn, hdeeds, sentIn_deedsIn]

/-- What is printed at the three levels, where the settings are printed first at `cli`. -/
structure Levels (banner off on cli : List Line) : Prop where
  silent : transcript .out off = ""
  settings : transcript .out cli = transcript .out banner ++ transcript .out on
  errors_off : transcript .err off = transcript .err on
  errors_cli : transcript .err cli = transcript .err on

section
variable (d : Settings.Document) (version : String) (providers : List Provider)
  (calls : List (Nat × Nat)) (o : Outside σ) (fuel : Nat) (u : σ) (fault : Option Fault)

def runAt (level : Logging) : Crew (σ × List (Instant × Effect)) :=
  recorded (employ (d.logged level) false providers) calls o fuel u

def outputAt (level : Logging) : Except Fault (List Line) :=
  output (d.logged level) version (runAt d providers calls o fuel u level).surroundings.2 fault

variable {o} {u} {V : σ → σ → Prop}

theorem runAt_hushed (ho : o.Deaf V) (hu : V u u)
    {level : Logging} (hlevel : Logging.ofName level.name = level)
    (h : Console.Hushed hears ⟨.on, false⟩ ⟨level, false⟩) :
    Crew.Hushed hears (Shift.hushed (List.map (Cycle.hushed hears)))
      V (runAt d providers calls o fuel u .on)
      (runAt d providers calls o fuel u level) := by
  have hworker : (employ (d.logged .on) false providers).Hushed hears level := by
    change Console.Hushed hears ⟨(d.logged .on).logging, false⟩ ⟨level, false⟩
    rw [Settings.Document.logging_logged]
    exact h
  rw [runAt, runAt, employ_logged d level .on, hlevel]
  exact recorded_hushed hworker calls ho fuel hu

theorem outputAt_eq {level : Logging} (hlevel : Logging.ofName level.name = level) :
    outputAt d version providers calls o fuel u fault level =
      (Console.banner ⟨level, false⟩ (d.logged level) version).map fun banner =>
        banner ++ printout ⟨level, false⟩
          (runAt d providers calls o fuel u level).surroundings.2 fault := by
  unfold outputAt output
  rw [Settings.Document.logging_logged, hlevel]
  rfl

/-- A fault that ends the run is told as an error, but that the user has ended it is progress. -/
theorem printout_off (log log' : List (Instant × Effect))
    (hout : transcript .out (printedIn log) = "")
    (herr : transcript .err (printedIn log) = transcript .err (printedIn log'))
    (fault : Option Fault) :
    transcript .out (printout ⟨.off, false⟩ log fault) = "" ∧
      transcript .err (printout ⟨.off, false⟩ log fault) =
        transcript .err (printout ⟨.on, false⟩ log' fault) := by
  have hfault :
      transcript .out (fault.elim [] fun f => (CommandLine.broken ⟨.off, false⟩ f).2) = "" ∧
      transcript .err (fault.elim [] fun f => (CommandLine.broken ⟨.off, false⟩ f).2) =
        transcript .err (fault.elim [] fun f => (CommandLine.broken ⟨.on, false⟩ f).2) := by
    cases fault with
    | none => exact ⟨rfl, rfl⟩
    | some f =>
      unfold Option.elim CommandLine.broken
      dsimp only
      split <;> exact ⟨rfl, rfl⟩
  unfold printout
  rw [transcript_append, transcript_append, transcript_append, hout, herr, hfault.1, hfault.2]
  exact ⟨rfl, rfl⟩

theorem runAt_off (ho : o.Deaf V) (hu : V u u) :
    SameDeeds (runAt d providers calls o fuel u .off) (runAt d providers calls o fuel u .on) ∧
      transcript .out (printedIn (runAt d providers calls o fuel u .off).surroundings.2) = "" ∧
      transcript .err (printedIn (runAt d providers calls o fuel u .off).surroundings.2) =
        transcript .err (printedIn (runAt d providers calls o fuel u .on).surroundings.2) := by
  have hsome := runAt_hushed d providers calls fuel ho hu rfl (Console.hushed_any_off false)
  have honly := runAt_hushed d providers calls fuel ho hu rfl (Console.hushed_all_off false)
  refine ⟨sameDeeds_of_hushed hsome, ?_, ?_⟩
  · rw [honly.surroundings.log]
    refine transcript_hushedLog (fun lines hlines line hline hout => ?_) _
    have herr := List.all_eq_true.1 hlines line hline
    rw [hout] at herr
    cases herr
  · rw [hsome.surroundings.log]
    refine transcript_hushedLog_of_heard (fun lines hlines line hline herr => ?_) _
    exact absurd (beq_iff_eq.2 herr) (List.any_eq_false.1 hlines line hline)

theorem runAt_cli (ho : o.Deaf V) (hu : V u u) :
    SameDeeds (runAt d providers calls o fuel u .cli) (runAt d providers calls o fuel u .on) ∧
      (runAt d providers calls o fuel u .cli).surroundings.2 =
        (runAt d providers calls o fuel u .on).surroundings.2 := by
  have hrun := runAt_hushed d providers calls fuel ho hu rfl (Console.hushed_cli false)
  refine ⟨sameDeeds_of_hushed hrun,
    hrun.surroundings.log.trans (List.filter_eq_self.2 fun x _ => ?_)⟩
  obtain ⟨t, e⟩ := x
  cases e <;> rfl

theorem banner_cli {secret : String} (hsecret : d.get "location_secret" = .text secret) :
    ∃ banner, Console.banner ⟨.cli, false⟩ (d.logged .cli) version = .ok banner ∧
      ∀ l ∈ banner, l.stream = .out := by
  have hmasked : (d.logged .cli).masked = .ok (Settings.mask secret) := by
    rw [Settings.Document.masked, Settings.Document.get_logged _ _ (by decide), hsecret]
  unfold Console.banner
  rw [hmasked]
  refine ⟨_, rfl, fun l hl => ?_⟩
  obtain ⟨text, -, rfl⟩ := List.mem_map.1 hl
  rfl

/-- Logging observes and never acts. Runs at the three levels ask for the same at the same times,
carry out as many cycles and print the same errors. At `off` nothing goes to standard output, at
`cli` what goes there at `on` comes after the settings. -/
theorem logging_observes {secret : String} (hsecret : d.get "location_secret" = .text secret)
    (ho : o.Deaf V) (hu : V u u) :
    SameDeeds (runAt d providers calls o fuel u .off) (runAt d providers calls o fuel u .on) ∧
      SameDeeds (runAt d providers calls o fuel u .cli) (runAt d providers calls o fuel u .on) ∧
      ∃ off on cli banner, outputAt d version providers calls o fuel u fault .off = .ok off ∧
        outputAt d version providers calls o fuel u fault .on = .ok on ∧
        outputAt d version providers calls o fuel u fault .cli = .ok cli ∧
        Console.banner ⟨.cli, false⟩ (d.logged .cli) version = .ok banner ∧
        Levels banner off on cli := by
  obtain ⟨hoff, hquiet, herrors⟩ := runAt_off d providers calls fuel ho hu
  obtain ⟨hcli, hlog⟩ := runAt_cli d providers calls fuel ho hu
  obtain ⟨banner, hbanner, hout⟩ := banner_cli d version hsecret
  have hnone : transcript .err banner = "" := transcript_eq_empty fun l hl => by simp [hout l hl]
  obtain ⟨hnothing, hsame⟩ := printout_off _ _ hquiet herrors fault
  have hprintout : outputAt d version providers calls o fuel u fault .cli =
      .ok (banner ++
        printout ⟨.on, false⟩ (runAt d providers calls o fuel u .on).surroundings.2 fault) := by
    rw [outputAt_eq d version providers calls fuel fault rfl, hbanner, hlog]
    rfl
  refine ⟨hoff, hcli, _, _, _, banner, outputAt_eq d version providers calls fuel fault rfl,
    outputAt_eq d version providers calls fuel fault rfl, hprintout, hbanner, hnothing,
    transcript_append _ _ _, hsame, ?_⟩
  rw [transcript_append, hnone]
  exact String.empty_append

end

def answers : List Web.Response :=
  ["\x7b\"executions\":[]\x7d",
    "\x7b\"requests\":[1," ++
      "\x7b\"id\":\"a\",\"request\":\x7b\"url\":\"https://api.test/x\"\x7d\x7d]\x7d",
    "\x7b\x7d", "\x7b\x7d"].map fun text => ⟨200, [], Text.utf8Bytes text⟩

def answered (level : Logging) : Crew (List Web.Response × List (Instant × Effect)) :=
  runAt (keyed "abc-one") [] [] Cycle.replying 60 answers level

theorem answered_sends : (answered .on).state.results = [1] ∧
    (sentIn (answered .on).surroundings.2).map (·.1) = [0, 0, 640, 1280] := by
  decide +kernel

example : (printedIn (answered .on).surroundings.2).map (·.stream) =
      [.out, .out, .out, .err, .err, .err, .out, .out] ∧
    (printedIn (answered .off).surroundings.2).map (·.stream) = [.err, .err, .err] := by
  decide +kernel

theorem logging_observes_answered : (answered .on).state.results = [1] ∧
    (sentIn (answered .on).surroundings.2).map (·.1) = [0, 0, 640, 1280] ∧
    SameDeeds (answered .off) (answered .on) ∧ SameDeeds (answered .cli) (answered .on) ∧
    ∃ off on cli banner,
      outputAt (keyed "abc-one") CommandLine.version [] [] Cycle.replying
        60 answers none .off = .ok off ∧
      outputAt (keyed "abc-one") CommandLine.version [] [] Cycle.replying
        60 answers none .on = .ok on ∧
      outputAt (keyed "abc-one") CommandLine.version [] [] Cycle.replying
        60 answers none .cli = .ok cli ∧
      Console.banner ⟨.cli, false⟩ ((keyed "abc-one").logged .cli)
        CommandLine.version = .ok banner ∧
      Levels banner off on cli := by
  obtain ⟨hresults, hsent⟩ := answered_sends
  have hsecret : (keyed "abc-one").get "location_secret" = .text "abc-one" := rfl
  exact ⟨hresults, hsent, logging_observes _ _ _ _ _ _ hsecret Cycle.replying_deaf rfl⟩

end Agent
end TestWorker
