import TestWorker.Clock
import TestWorker.Console
import TestWorker.Database.Statement
import TestWorker.Generator
import TestWorker.Web.Redirect

namespace TestWorker

/-- Whose cookies a request carries. -/
inductive Session where
  | targets
  | coordinator
  deriving DecidableEq, Repr

inductive Effect where
  | clock
  | print (lines : List Line)
  /-- One request, one answer; redirects are not followed. -/
  | exchange (request : Web.Request)
  /-- What has been remembered for a session so far. -/
  | cookies (session : Session)
  /-- Keep what a response to a request for the address sets. -/
  | remember (session : Session) (url : Web.Url) (cookies : List String)
  | step (s : Database.Step)
  | query (s : Database.Statement)
  /-- A value from a generator; two calls need not give the same. -/
  | draw (d : Draw)
  | pause (duration : Nat)

def Effect.Reply : Effect → Type
  | clock => Instant
  | exchange _ => Except Fault Web.Response
  | cookies _ => Web.Jar
  | step _ => Except Fault Unit
  | query _ => Except Fault Database.ResultSet
  | draw _ => Except Fault Value
  | print _ | remember .. | pause _ => Unit

inductive Activity (α : Type) where
  | done (result : α)
  | ask (e : Effect) (next : e.Reply → Activity α)

namespace Activity

def bind : Activity α → (α → Activity β) → Activity β
  | done a, f => f a
  | ask e next, f => ask e fun r => (next r).bind f

instance : Monad Activity where
  pure := done
  bind := bind

def perform (e : Effect) : Activity e.Reply := ask e done

def now : Activity Instant := perform .clock

def print (lines : List Line) : Activity Unit :=
  if lines.isEmpty then done () else perform (.print lines)

def pause (duration : Nat) : Activity Unit := perform (.pause duration)

def since (started : Instant) : Activity Double := do return Clock.elapsed started (← now)

end Activity

/-- An activity that a fault may end. -/
abbrev Attempt := ExceptT Fault Activity

namespace Attempt

def perform (e : Effect) : Attempt e.Reply := liftM (Activity.perform e)

def ofExcept : Except Fault α → Attempt α
  | .ok a => pure a
  | .error f => throw f

/-- The result or the fault that ended the task. -/
def outcome (t : Attempt α) : Activity (Except Fault α) := t.run

end Attempt
end TestWorker
