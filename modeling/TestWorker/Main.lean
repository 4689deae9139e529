import TestWorker.CommandLine
import TestWorker.Offline

open TestWorker

def showLine (l : Line) : IO Unit :=
  match l.stream with
  | .out => IO.println l.text
  | .err => IO.eprintln l.text

def serveInTime (plan : Agent.Plan) (crew : Agent.Crew (List Line)) : Nat → IO Unit
  | 0 => pure ()
  | n + 1 => do
    match crew.turn plan Offline.outside with
    | none => pure ()
    | some next =>
      next.surroundings.forM showLine
      if crew.now < next.now then
        IO.sleep (UInt32.ofNat ((next.now - crew.now) / Clock.millisecond))
      if next.state.results.isEmpty then serveInTime plan { next with surroundings := [] } n

def main (args : List String) : IO UInt32 := do
  let names := CommandLine.Parameter.all.flatMap fun p => p.environment
  let found ← names.mapM fun name => do return (name, ← IO.getEnv name)
  let env (name : String) : Option String := (found.lookup name).join
  match CommandLine.read args env with
  | .leave code lines =>
    lines.forM showLine
    return UInt32.ofNat code
  | .start d c lines =>
    lines.forM showLine
    let worker : Worker := { settings := d.settings, console := c, equipment := Agent.equipment [] }
    serveInTime (Agent.plan worker) (Shift.ready (Agent.crew worker [])) (Nat.pow 2 64)
    return 0
