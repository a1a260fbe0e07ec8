import CertSync.Proofs.Session.Proceed
import CertSync.Proofs.Session.Record

/-!
# The records of a run that nothing cancels

Such a run starts every call that it comes to, so its records are read off its trace: one for each
call to the certificate service, in order.
-/

namespace CertSync

variable {σ α : Type} {world : Collaborators σ}

def Ending.outcome : Ending α → Outcome α
  | returns a => .completed a
  | fails error => .failed error
  | hangs => .stopped

namespace Session

/-- What a call that was made in this state leaves in the records. -/
def entries (world : Collaborators σ) : Call × σ → List ApiRecord
  | (.secret _, _) => []
  | (.service c, w) => [c.entry (world (.service c) w).1.ending.outcome]

theorem entries_service {c : ServiceCall} {w w' : σ} {ending : Ending c.Answer} {cancels : Bool}
    (h : world (.service c) w = (⟨ending, cancels⟩, w')) :
    entries world (.service c, w) = [c.entry ending.outcome] := by
  rw [entries, h]
  rfl

end Session

end CertSync
