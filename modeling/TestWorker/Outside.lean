import TestWorker.Activity

namespace TestWorker

structure Reply (σ : Type) (e : Effect) where
  value : e.Reply
  delay : Nat
  state : σ

/-- The reply is settled when the effect is asked for; the delay comes after. -/
abbrev Outside (σ : Type) := (e : Effect) → Instant → σ → Reply σ e

/-- Time is the same for all surroundings. -/
def Outside.reply (o : Outside σ) (e : Effect) (now : Instant) (s : σ) : Reply σ e :=
  match e with
  | .clock => ⟨now, 0, s⟩
  | .pause d => ⟨(), d, s⟩
  | e => o e now s

/-- How far an activity has come without waiting. -/
inductive Stage (α : Type) where
  | ended (result : α)
  | waiting (delay : Nat) (rest : Activity α)

namespace Activity

def run (o : Outside σ) : Activity α → Instant → σ → α × Instant × σ
  | done a, now, s => (a, now, s)
  | ask e next, now, s =>
    let r := o.reply e now s
    (next r.value).run o (now + r.delay) r.state

/-- Runs up to the first reply that takes time. -/
def advance (o : Outside σ) : Activity α → Instant → σ → Stage α × σ
  | done a, _, s => (.ended a, s)
  | ask e next, now, s =>
    let r := o.reply e now s
    if r.delay = 0 then (next r.value).advance o now r.state
    else (.waiting r.delay (next r.value), r.state)

end Activity
end TestWorker
