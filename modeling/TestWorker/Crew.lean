import TestWorker.Outside

namespace TestWorker

/-- An activity under a tag; the tag says what kind of result it ends with. -/
structure Strand {τ : Type} (ρ : τ → Type) where
  tag : τ
  rest : Activity (ρ tag)

/-- What follows when a strand has ended. -/
structure Reaction {τ : Type} (ρ : τ → Type) (S : Type) where
  state : S
  /-- Strands with which the same turn goes on. -/
  first : List (Strand ρ) := []
  /-- Strands that get turns of their own, after all that are ready. -/
  later : List (Strand ρ) := []

/-- Reactions to the ends of strands; `S` is what has to be remembered between them. -/
abbrev Plan {τ : Type} (ρ : τ → Type) (S : Type) := Instant → (t : τ) → ρ t → S → Reaction ρ S

structure Alarm {τ : Type} (ρ : τ → Type) where
  due : Instant
  strand : Strand ρ

structure Crew {τ : Type} (ρ : τ → Type) (S σ : Type) where
  now : Instant := 0
  ready : List (Strand ρ) := []
  /-- Waiting strands, the earliest first, those of one instant in the order in which they began to
  wait. -/
  alarms : List (Alarm ρ) := []
  state : S
  surroundings : σ

namespace Crew

variable {τ S σ : Type} {ρ : τ → Type}

/-- Before the first alarm that is due later. -/
def schedule (a : Alarm ρ) : List (Alarm ρ) → List (Alarm ρ)
  | [] => [a]
  | b :: bs => if a.due < b.due then a :: b :: bs else b :: schedule a bs

/-- Moves the clock to the first alarm and readies every strand due then. -/
def wake (c : Crew ρ S σ) : Crew ρ S σ :=
  match c.alarms with
  | [] => c
  | a :: _ =>
    { c with
      now := a.due
      ready := (c.alarms.takeWhile (·.due ≤ a.due)).map (·.strand)
      alarms := c.alarms.dropWhile (·.due ≤ a.due) }

/-- The next turn, or the next move of the clock; none when nothing is left to do. -/
def turn (p : Plan ρ S) (o : Outside σ) (c : Crew ρ S σ) : Option (Crew ρ S σ) :=
  match c.ready with
  | [] => if c.alarms.isEmpty then none else some c.wake
  | s :: ready =>
    match s.rest.advance o c.now c.surroundings with
    | (.waiting delay rest, w) =>
      let alarms := schedule ⟨c.now + delay, s.tag, rest⟩ c.alarms
      some { c with ready, alarms, surroundings := w }
    | (.ended r, w) =>
      let x := p c.now s.tag r c.state
      some { c with ready := x.first ++ ready ++ x.later, state := x.state, surroundings := w }

/-- Takes turns until a condition on the state holds, nothing is left to do or the bound is met. -/
def runUntil (p : Plan ρ S) (o : Outside σ) (enough : S → Bool) : Nat → Crew ρ S σ → Crew ρ S σ
  | 0, c => c
  | n + 1, c =>
    if enough c.state then c
    else match c.turn p o with
      | some c => runUntil p o enough n c
      | none => c

def runTo (p : Plan ρ S) (o : Outside σ) (limit : Instant) : Nat → Crew ρ S σ → Crew ρ S σ
  | 0, c => c
  | n + 1, c =>
    match c.ready, c.alarms with
    | [], [] => { c with now := limit }
    | [], a :: _ => if a.due ≤ limit then runTo p o limit n c.wake else { c with now := limit }
    | _ :: _, _ => match c.turn p o with
      | some c => runTo p o limit n c
      | none => c

end Crew
end TestWorker
