import TestWorker.Proofs.Batch.Reach
import TestWorker.Proofs.Interleaving

namespace TestWorker.Batch

def refused (lines : List Line) : Activity Bool := .ask (.print lines) fun _ => .done false

def arriving (i : Nat) : Strand Tag.Result := ⟨.arrival i, .done ()⟩

def entering (i : Nat) : Strand Tag.Result := ⟨.entry i, .done ()⟩

section
variable {b : Batch} {i : Nat}

theorem plan_job (now : Instant) (i : Nat) (success : Bool) (b : Batch) :
    ∃ c : Batch, plan now (.job i) success b =
      { state := c, later := (b.queue.take 1).map entering } ∧
      c.jobs = b.jobs ∧ c.queue = b.queue.tail ∧
      c.free = if b.queue = [] then b.free.map (· + 1) else b.free := by
  cases hq : b.queue with
  | nil => exact ⟨_, plan_job_of_nil now success hq, by simp [finish, setStanding, hq]⟩
  | cons j queue => exact ⟨_, plan_job_of_cons now success hq, by simp [finish, setStanding, hq]⟩

theorem plan_entry (now : Instant) (i : Nat) (r : Unit) (b : Batch) :
    ∃ c : Batch, plan now (.entry i) r b = { state := c, first := b.jobStrand i } ∧
      c.jobs = b.jobs ∧ c.queue = b.queue ∧ c.free = b.free :=
  ⟨_, rfl, rfl, rfl, rfl⟩

theorem plan_arrival (now : Instant) (i : Nat) (r : Unit) (b : Batch) :
    ∃ c : Batch, c.jobs = b.jobs ∧
      (b.hasRoom = true ∧ plan now (.arrival i) r b = { state := c, first := b.jobStrand i } ∧
          c.queue = b.queue ∧ c.free = b.free.map (· - 1) ∨
        b.hasRoom = false ∧ plan now (.arrival i) r b = { state := c } ∧
          c.queue = b.queue ++ [i] ∧ c.free = b.free) := by
  cases hroom : b.hasRoom with
  | true =>
    refine ⟨_, ?_, .inl ⟨rfl, plan_arrival_of_room now r hroom, ?_, ?_⟩⟩
    all_goals rfl
  | false =>
    refine ⟨_, ?_, .inr ⟨rfl, plan_arrival_of_no_room now r hroom, ?_, ?_⟩⟩
    all_goals rfl

end

def counterpart (f : Nat → Option Nat) : Strand Tag.Result → Option (Strand Tag.Result)
  | ⟨.arrival i, a⟩ => (f i).map fun j => ⟨.arrival j, a⟩
  | ⟨.entry i, a⟩ => (f i).map fun j => ⟨.entry j, a⟩
  | ⟨.job i, a⟩ => (f i).map fun j => ⟨.job j, a⟩

def guest? (f : Nat → Option Nat) : Strand Tag.Result → Option Nat
  | ⟨.arrival _, _⟩ => none
  | ⟨.entry i, _⟩ | ⟨.job i, _⟩ => if (f i).isNone then some i else none

section
variable (f : Nat → Option Nat) (i : Nat)

@[simp] theorem counterpart_arriving : counterpart f (arriving i) = (f i).map arriving := rfl

@[simp] theorem counterpart_entering : counterpart f (entering i) = (f i).map entering := rfl

@[simp] theorem counterpart_job (a : Activity Bool) :
    counterpart f ⟨.job i, a⟩ = (f i).map fun j => ⟨.job j, a⟩ := rfl

@[simp] theorem guest?_entering : guest? f (entering i) = if (f i).isNone then some i else none :=
  rfl

@[simp] theorem guest?_job (a : Activity Bool) :
    guest? f ⟨.job i, a⟩ = if (f i).isNone then some i else none := rfl

end

theorem guest?_of_none {f : Nat → Option Nat} {i : Nat} (h : f i = none) (a : Activity Bool) :
    guest? f ⟨.job i, a⟩ = some i := by
  simp [h]

theorem guest?_of_some {f : Nat → Option Nat} {i j : Nat} (h : f i = some j) (a : Activity Bool) :
    guest? f ⟨.job i, a⟩ = none := by
  simp [h]

/-- How a batch stands where the other one has these strands, this queue and these free slots, and
where its guests are about to give on so many slots. -/
structure Places (f : Nat → Option Nat) (hs : List (Strand Tag.Result)) (is queue : List Nat)
    (free : Option Nat) (m : Nat) (ready : List (Strand Tag.Result)) (c : Batch) : Prop where
  turns : ready = hs.filterMap (counterpart f) ++ (is.filterMap f).map arriving ++
    ((queue.filterMap f).take m).map entering
  waiting : c.queue = (queue.filterMap f).drop m
  slots : c.free = free.map (· + (m - (queue.filterMap f).length))

section
variable {f : Nat → Option Nat} {hs ready : List (Strand Tag.Result)} {is queue : List Nat}
  {free : Option Nat} {m : Nat} {b c d : Batch}

/-- A job with a number ends, and its slot is given on at once. -/
theorem Places.give (h : Places f hs is queue free m ready c) (hqueue : d.queue = c.queue.tail)
    (hfree : d.free = if c.queue = [] then c.free.map (· + 1) else c.free) :
    Places f hs is queue free (m + 1) (ready ++ (c.queue.take 1).map entering) d := by
  obtain ⟨hready, hc, hslots⟩ := h
  refine ⟨?_, ?_, ?_⟩
  · rw [hready, hc, List.append_assoc, ← List.map_append, ← List.take_add]
  · rw [hqueue, hc, List.tail_drop]
  · rw [hfree, hc, hslots]
    cases free with
    | none => split <;> rfl
    | some n =>
      split
      -- nobody waits here, so one slot more is free than what the guests still hold accounts for
      · next hnil =>
        have hle := List.drop_eq_nil_iff.1 hnil
        simp only [Option.map_some, Option.some_inj]
        omega
      · next hcons =>
        have hlt : ¬(queue.filterMap f).length ≤ m := fun hle => hcons (List.drop_eq_nil_iff.2 hle)
        simp only [Option.map_some, Option.some_inj]
        omega

/-- The same slot is given on in the batch with guests. -/
theorem Places.given (h : Places f hs is queue free ((hs.filterMap (guest? f)).length + 1) ready c)
    (hphase : queue ≠ [] → is = []) :
    Places f (hs ++ (queue.take 1).map entering) is queue.tail
      (if queue = [] then free.map (· + 1) else free)
      ((hs ++ (queue.take 1).map entering).filterMap (guest? f)).length ready c := by
  obtain ⟨hready, hc, hslots⟩ := h
  cases queue with
  | nil =>
    refine ⟨by simpa using hready, by simpa using hc, ?_⟩
    rw [hslots]
    cases free with
    | none => rfl
    | some n => simp; omega
  | cons q queue =>
    obtain rfl := hphase (List.cons_ne_nil _ _)
    rw [if_neg (List.cons_ne_nil _ _)]
    -- a guest that takes the slot holds it in turn, and a job that takes it has done so in the
    -- other batch before
    cases hq : f q with
    | none =>
      rw [List.filterMap_cons, hq] at hready hc hslots
      exact ⟨by simpa [hq] using hready, by simpa [hq] using hc, by simpa [hq] using hslots⟩
    | some j =>
      rw [List.filterMap_cons, hq] at hready hc hslots
      refine ⟨by simpa [hq] using hready, by simpa [hq] using hc, ?_⟩
      rw [hslots]
      simp [hq]

end

/-- The jobs of a batch with guests, and the jobs of the batch without. -/
structure Guests where
  all : List (Activity Bool)
  others : List (Activity Bool)
  /-- The place of a job where there are no guests; a guest has none. -/
  number : Nat → Option Nat
  lines : Nat → List Line
  same : ∀ i j, number i = some j → all[i]? = others[j]?
  refused : ∀ i < all.length, number i = none → all[i]? = some (refused (lines i))

namespace Guests
variable (g : Guests)

def isGuest (i : Nat) : Bool := (g.number i).isNone

/-- What a strand of the batch with guests is: none that comes, and a guest does nothing but
fail. -/
def Plain : Strand Tag.Result → Prop
  | ⟨.arrival _, _⟩ => False
  | ⟨.entry _, a⟩ => a = .done ()
  | ⟨.job i, a⟩ => g.number i = none → a = Batch.refused (g.lines i)

/-- Alarms of one job in both batches. -/
inductive Paired : Alarm Tag.Result → Alarm Tag.Result → Prop
  | mk (due : Instant) {i j : Nat} (a : Activity Bool) : g.number i = some j →
    Paired ⟨due, ⟨.job i, a⟩⟩ ⟨due, ⟨.job j, a⟩⟩

/-- What is recorded with guests and without, after `past` and `past'`: the same, but that some
guests have told of their failures, in order. -/
def Records (past past' : List (Instant × Effect)) (told : List Nat)
    (log log' : List (Instant × Effect)) : Prop :=
  ∃ done rest failures, log = past ++ done ∧ log' = past' ++ rest ∧ Interleaves rest failures done ∧
    failures.map Prod.snd = told.map fun i => .print (g.lines i)

variable {σ : Type}

/-- The batch with guests, with strands `hs` and others that have yet to come, beside the one
without. -/
structure Abreast (V : σ → σ → Prop) (past past' : List (Instant × Effect))
    (told : List Nat) (hs : List (Strand Tag.Result)) (is : List Nat)
    (b c : Crew Tag.Result Batch (σ × List (Instant × Effect))) :
    Prop where
  now : b.now = c.now
  ready : b.ready = hs ++ is.map arriving
  jobs : b.state.jobs = g.all
  others : c.state.jobs = g.others
  places : Places g.number hs is b.state.queue b.state.free (hs.filterMap (guest? g.number)).length
    c.ready c.state
  full : b.state.queue ≠ [] → b.state.free = some 0
  /-- As long as jobs come, each of them begins before the next one comes. -/
  phase : is = [] ∨ hs = [] ∨ (∃ i a, hs = [⟨.job i, a⟩]) ∧ b.state.queue = []
  plain : ∀ x ∈ hs, g.Plain x
  alarms : List.Forall₂ g.Paired b.alarms c.alarms
  order : told ++ hs.filterMap (guest? g.number) ++ b.state.queue.filter g.isGuest ++
    is.filter g.isGuest = (List.range g.all.length).filter g.isGuest
  world : V b.surroundings.1 c.surroundings.1
  log : g.Records past past' told b.surroundings.2 c.surroundings.2

/-- Wherever the batch with guests has come to, the one without goes along. -/
def Along (V : σ → σ → Prop) (past past' : List (Instant × Effect))
    (b c : Crew Tag.Result Batch (σ × List (Instant × Effect))) : Prop :=
  ∃ told hs is, g.Abreast V past past' told hs is b c

end Guests

namespace Guests
variable {g : Guests} {σ : Type} {V : σ → σ → Prop} {past past' : List (Instant × Effect)}
  {told : List Nat} {hs : List (Strand Tag.Result)} {is : List Nat}
  {b c d : Crew Tag.Result Batch (σ × List (Instant × Effect))} {o : Outside σ}

theorem Records.more {log log' : List (Instant × Effect)} (h : g.Records past past' told log log')
    (ms : List (Instant × Effect)) : g.Records past past' told (log ++ ms) (log' ++ ms) := by
  obtain ⟨done, rest, failures, rfl, rfl, hwoven, hfailures⟩ := h
  exact ⟨_, _, failures, List.append_assoc _ _ _, List.append_assoc _ _ _,
    hwoven.append_left ms, hfailures⟩

theorem Records.fails {log log' : List (Instant × Effect)} (h : g.Records past past' told log log')
    (now : Instant) (i : Nat) :
    g.Records past past' (told ++ [i]) (log ++ [(now, .print (g.lines i))]) log' := by
  obtain ⟨done, rest, failures, rfl, rfl, hwoven, hfailures⟩ := h
  refine ⟨_, _, _, List.append_assoc _ _ _, rfl, hwoven.right (now, .print (g.lines i)), ?_⟩
  rw [List.map_append, List.map_append, hfailures]
  rfl

theorem Abreast.lt_of_guest (h : g.Abreast V past past' told hs is b c) {i : Nat}
    (hi : i ∈ hs.filterMap (guest? g.number) ∨ i ∈ is.filter g.isGuest) : i < g.all.length := by
  have hmem : i ∈ (List.range g.all.length).filter g.isGuest := by
    rw [← h.order]
    rcases hi with hi | hi
    · simp [hi]
    · exact List.mem_append_right _ hi
  exact List.mem_range.1 (List.mem_filter.1 hmem).1

theorem Abreast.queue_of_room (h : g.Abreast V past past' told hs is b c)
    (hroom : b.state.hasRoom = true) :
    b.state.queue = [] := by
  by_contra hne
  have hzero := h.full hne
  simp [hasRoom, hzero] at hroom

theorem jobStrand_of_guest {b : Batch} (hjobs : b.jobs = g.all) {i : Nat} (hlt : i < g.all.length)
    (hi : g.number i = none) : b.jobStrand i = [⟨.job i, Batch.refused (g.lines i)⟩] := by
  unfold jobStrand
  rw [hjobs, g.refused i hlt hi]

theorem jobStrand_of_number {b c : Batch} (hb : b.jobs = g.all) (hc : c.jobs = g.others) {i j : Nat}
    (hij : g.number i = some j) : (b.jobStrand i).filterMap (counterpart g.number) = c.jobStrand j ∧
      (b.jobStrand i).filterMap (guest? g.number) = [] ∧ ∀ x ∈ b.jobStrand i, g.Plain x := by
  unfold jobStrand
  rw [hb, hc, ← g.same i j hij]
  cases g.all[i]? with
  | none => exact ⟨rfl, rfl, List.forall_mem_nil _⟩
  | some a =>
    refine ⟨by simp [hij], by simp [hij], List.forall_mem_singleton.2 fun hi => ?_⟩
    rw [hij] at hi
    cases hi

theorem Abreast.free_of_no_room (h : g.Abreast V past past' told hs is b c)
    (hroom : b.state.hasRoom = false) :
    b.state.free = some 0 := by
  by_cases hqueue : b.state.queue = []
  · cases hfree : b.state.free with
    | none => simp [hasRoom, hfree] at hroom
    | some n => simpa [hasRoom, hfree, hqueue] using hroom
  · exact h.full hqueue

end Guests
end TestWorker.Batch
