import TestWorker.Outside
import TestWorker.Database.Statement

namespace TestWorker.Offline

def unreachable : Fault := .transport "ConnectError" "All connection attempts failed"

/-- The lines that have not been shown yet are all there is to know. -/
def outside : Outside (List Line) := fun e now lines =>
  match e with
  | .clock => ⟨now, 0, lines⟩
  | .print more => ⟨(), 0, lines ++ more⟩
  | .exchange _ => ⟨.error unreachable, 0, lines⟩
  | .cookies _ => ⟨[], 0, lines⟩
  | .remember .. => ⟨(), 0, lines⟩
  | .step _ => ⟨.ok (), 0, lines⟩
  | .query s =>
    ⟨.error (Database.refusal "OperationalError" (some "connection refused") s), 0, lines⟩
  | .draw d => ⟨d.sample, 0, lines⟩
  | .pause d => ⟨(), d, lines⟩

end TestWorker.Offline
