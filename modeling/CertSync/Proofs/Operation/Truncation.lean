import CertSync.Proofs.Operation.Basic
import CertSync.Proofs.Session.Mishap

/-!
# Operations that are disturbed

Whatever goes wrong with one call of an operation, its calls are those that it would have made up to
that one. A cancelled run says so if it had another call to make, and else it ends as it would have.
-/

namespace CertSync.Operation

variable {σ : Type}

/-- A run that was cancelled beforehand, or during one of its calls, starts no call after that. Nor
does a run where a call fails or hangs. -/
theorem hook_truncated (o : Operation) (world : Collaborators σ) (w : σ) :
    let calm := Session.run world o.hook { world := w }
    CutOff 0 calm (Session.run world o.hook { world := w, cancelled := true }) ∧
      ∀ n,
        let disturbed (m : Mishap σ) :=
          Session.run (world.disturbed n m) o.hook { world := (0, w) }
        CutOff (n + 1) calm (disturbed .cancelled) ∧
        (∀ after, (disturbed (.hangs after)).2.calls = calm.2.calls.take (n + 1) ∧
          (n < calm.2.calls.length → IsCancelled (disturbed (.hangs after)).1)) ∧
        ∀ error cancels after,
          (disturbed (.fails error cancels after)).2.calls = calm.2.calls.take (n + 1) ∧
          (n < calm.2.calls.length →
            ∃ e, (disturbed (.fails error cancels after)).1 = .error e ∧ e.cause ≠ .cancelled) := by
  intro calm
  have habreast : Session.Abreast { world := w } { world := (0, w) } := ⟨rfl, rfl, rfl⟩
  constructor
  · exact Session.cutOff_of_cancelled o.prompt { world := w } { world := w, cancelled := true }
      rfl rfl
  · intro n disturbed
    refine ⟨?_, ?_, ?_⟩
    · exact Session.run_cancelled o.prompt habreast (Nat.zero_le n)
    · exact Session.run_hangs o.prompt habreast (Nat.zero_le n)
    · exact Session.run_fails o.prompt habreast (Nat.zero_le n)

end CertSync.Operation
