import TestWorker.Shift

namespace TestWorker.Rehearsal

structure Cycle where
  duration : Nat := 0
  stops : Bool := false
  fault : Option Fault := none

namespace Cycle

def outcome (c : Cycle) : Except Fault Unit :=
  match c.fault with
  | some f => .error f
  | none => .ok ()

/-- A single strand for each cycle, under its number. -/
def following (cycle : Nat → Cycle) : Routine (fun _ : Nat => Unit) Unit where
  begin n _ := { state := (), first := [⟨n, Activity.pause (cycle n).duration⟩] }
  react _ n _ _ :=
    let stops := if (cycle n).stops then [.stop] else []
    ({ state := () }, stops ++ [.cycleEnded n (cycle n).outcome])

/-- The cycle of a number; those past the end of a script do nothing. -/
def get (script : List Cycle) (n : Nat) : Cycle := script[n - 1]?.getD {}

def routine (script : List Cycle) : Routine (fun _ : Nat => Unit) Unit := following (get script)

end Cycle
end TestWorker.Rehearsal
