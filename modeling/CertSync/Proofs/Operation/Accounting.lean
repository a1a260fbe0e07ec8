import CertSync.Proofs.Operation.Basic
import CertSync.Proofs.Session.Record

/-!
# Operations and their records

Whoever reads the records of an operation sees each call to the certificate service that it came to,
in their order, and how it went. Calls for secrets leave no record.
-/

namespace CertSync.Operation

variable {σ : Type}

/-- Each attempt has one entry, and there is no other. The attempts that were started are the calls
that the service got. -/
theorem hook_recorded (o : Operation) (world : Collaborators σ) (s : Session σ) :
    let ran := Session.run world o.hook s
    let attempts := Session.attempts world o.hook s
    (∃ entries, ran.2.records = s.records ++ entries ∧
      List.Forall₂ (Attempt.DocumentedBy world) attempts entries) ∧
    ran.2.calls.filterMap Call.service? = s.calls.filterMap Call.service? ++
      (attempts.filter Attempt.started).map Attempt.call :=
  ⟨Session.run_records world o.composed.accounts s, Session.run_services world o.hook s⟩

end CertSync.Operation
