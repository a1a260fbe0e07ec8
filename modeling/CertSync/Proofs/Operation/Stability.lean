import CertSync.Proofs.Import.Repetition
import CertSync.Proofs.Operation.Basic
import CertSync.Proofs.Session.Steady

/-!
# Operations that fail for good

A driver that is given a terminal error stops trying. It has lost nothing if the operation fails in
the same way for as long as nobody edits anything, and there is one kind of error of which this
cannot be said: a reference that is not resolved counts as wrong, whatever kept it from being
resolved.
-/

namespace CertSync

open Collaborators

variable {σ τ : Type} {view : τ → σ} {steady : Collaborators σ} {world : Collaborators τ}

/-- Whatever else happened to a run that ended in a terminal error, a run that finds the same and
is left alone ends in that error too; unless it is about a reference that could have been resolved,
but was not at the time. -/
theorem Operation.hook_terminal (o : Operation) (hsteady : Steady steady)
    (hfalters : Falters view steady world) {s t : Session τ} {e : HookError}
    (hrun : Session.run world o.hook s = (.error e, t)) (he : e.isTerminal = true) {s' : Session σ}
    (hworld : s'.world = view s.world) (hs' : s'.cancelled = false) :
    (∃ t', Session.run steady o.hook s' = (.error e, t')) ∨
      ∃ field ns ref w, e.cause = .terminal (.unresolvedSecret field ref.toText) ∧
        (.secret (.resolve ns ref), w) ∈ Session.trace world o.hook s ∧
        FailsTransiently view steady world (.secret (.resolve ns ref)) w :=
  Session.run_terminal o.prompt hsteady hfalters hworld hs' hrun he

namespace Certificate

/-- The run is cancelled while it writes. -/
def cancelledWriting : Call → Disturbance
  | .secret (.write _ _ _ _) => { cancels := true }
  | _ => {}

/-- An export that was cancelled, but not before it had a key that it could not read, ends no
better when it is left alone. -/
theorem exporting_unreadable :
    let o := Operation.exporting {} (exporting "")
    ∃ (e : HookError) (cut calm : Session World),
      Session.run (World.collaborators cancelledWriting) o.hook { world := exportWorld "KEY" } =
        (.error e, cut) ∧ cut.cancelled = true ∧ e.isTerminal = true ∧
      Session.run (World.collaborators fun _ => {}) o.hook { world := exportWorld "KEY" } =
        (.error e, calm) := by
  intro o
  obtain ⟨e, he, hterminal⟩ : IsTerminal (Session.run (World.collaborators cancelledWriting) o.hook
      { world := exportWorld "KEY" }).1 := by decide +kernel
  have hrun : Session.run (World.collaborators cancelledWriting) o.hook
      { world := exportWorld "KEY" } = (.error e, _) := Prod.ext he rfl
  have hsame : ({ world := exportWorld "KEY" } : Session World).world = id (exportWorld "KEY") :=
    rfl
  rcases o.hook_terminal World.collaborators_steady (World.collaborators_falters cancelledWriting)
    hrun hterminal hsame rfl with ⟨calm, hcalm⟩ | ⟨-, ns, ref, w, -, -, hfails⟩
  · exact ⟨e, _, calm, hrun, by decide +kernel, hterminal, hcalm⟩
  · exact absurd hfails (World.not_failsTransiently rfl rfl w)

/-- Secrets cannot be read for a while. -/
def withoutSecrets : Call → Disturbance
  | .secret (.resolve _ _) => { failure := some ⟨"connection reset", []⟩ }
  | _ => {}

/-- An import that could not read a secret is given up, though nobody would have to edit anything
for it to succeed. -/
theorem importing_given_up :
    ¬∀ (o : Operation) (disturb : Call → Disturbance) (w : World),
      IsTerminal (Session.run (World.collaborators disturb) o.hook { world := w }).1 →
      IsTerminal (Session.run (World.collaborators fun _ => {}) o.hook { world := w }).1 := by
  intro hall
  have hagain := hall (.importing {} importing) withoutSecrets importWorld (by decide +kernel)
  revert hagain
  decide +kernel

end Certificate

end CertSync
