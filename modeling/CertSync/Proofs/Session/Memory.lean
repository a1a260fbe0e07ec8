import CertSync.Hook.World
import CertSync.Proofs.Session.Replay

/-!
# Collaborators in memory keep to their answers

A disturbed call has no effect, so whatever a call in memory leaves is what its answer leaves or
what was there before.
-/

namespace CertSync.World

variable {β : Type} {disturb : Call → Disturbance} {c : Call}

theorem collaborators_of_hangs (h : (disturb c).hangs = true) (w : World) :
    collaborators disturb c w = (⟨.hangs, true⟩, w) := by
  simp [collaborators, h]

theorem collaborators_of_failure (h : (disturb c).hangs = false) {error : ErrorChain}
    (hf : (disturb c).failure = some error) (w : World) :
    collaborators disturb c w = (⟨.fails error, (disturb c).cancels⟩, w) := by
  simp [collaborators, h, hf]

theorem collaborators_of_answer (h : (disturb c).hangs = false) (hf : (disturb c).failure = none)
    (w : World) :
    collaborators disturb c w =
      match w.answer c with
      | (.ok a, after) => (⟨.returns a, (disturb c).cancels⟩, after)
      | (.error error, after) => (⟨.fails error, (disturb c).cancels⟩, after) := by
  rcases hd : disturb c with ⟨cancels, hangs, failure⟩
  rw [hd] at h hf
  subst h hf
  unfold collaborators
  rw [hd]
  rfl

theorem leaves (disturb : Call → Disturbance) (c : Call) (w : World) (view : World → β) :
    (collaborators disturb c w).1.Leaves (view w) (view (w.answer c).2)
      (view (collaborators disturb c w).2) := by
  cases h : (disturb c).hangs with
  | true =>
    rw [collaborators_of_hangs h]
    exact .inr ⟨rfl, by simp⟩
  | false =>
    cases hf : (disturb c).failure with
    | some error =>
      rw [collaborators_of_failure h hf]
      exact .inr ⟨rfl, by simp⟩
    | none =>
      rw [collaborators_of_answer h hf]
      rcases w.answer c with ⟨_ | _, after⟩ <;> exact .inl rfl

theorem answer_of_returns {w : World} {a : c.Answer}
    (ha : (collaborators disturb c w).1.ending = .returns a) : (w.answer c).1 = .ok a := by
  cases h : (disturb c).hangs with
  | true => simp [collaborators_of_hangs h] at ha
  | false =>
    cases hf : (disturb c).failure with
    | some error => simp [collaborators_of_failure h hf] at ha
    | none =>
      rw [collaborators_of_answer h hf] at ha
      rcases hw : w.answer c with ⟨_ | b, after⟩
      · simp [hw] at ha
      · simpa [hw] using ha

end CertSync.World
