import CertSync.Proofs.Export.Run
import CertSync.Proofs.Sharing.Surroundings

/-!
# The collaborators in memory share their secrets

The collaborators in memory are of the kind that can be shared: their secrets are the store, and
the rest of them is what a run meets of its own.
-/

namespace CertSync

variable {σ τ α : Type}

/-! ## A view of the state -/

namespace Session

def mapWorld (view : σ → τ) (s : Session σ) : Session τ := { s with world := view s.world }

/-- The collaborators of a view do what the others do, as far as the view shows it. -/
def Shows (view : σ → τ) (world : Collaborators σ) (other : Collaborators τ) : Prop :=
  ∀ c w, other c (view w) = ((world c w).1, view (world c w).2)

variable {view : σ → τ} {world : Collaborators σ} {other : Collaborators τ}

theorem handle_mapWorld (h : Shows view world other) (r : Effect) (s : Session σ) :
    handle other r (s.mapWorld view) =
      ((handle world r s).1, (handle world r s).2.mapWorld view) := by
  cases r with
  | record entry => rfl
  | log event => rfl
  | wait seconds => rfl
  | call c =>
    change call other c (s.mapWorld view) = ((call world c s).1, (call world c s).2.mapWorld view)
    cases hs : s.cancelled with
    | true => rw [call_of_cancelled hs, call_of_cancelled (s := s.mapWorld view) hs]
    | false =>
      have hshows := h c s.world
      rw [call_of_not_cancelled hs, call_of_not_cancelled (s := s.mapWorld view) hs]
      simp only [started, mapWorld, hshows]
      cases (world c s.world).1.ending <;> rfl

theorem run_mapWorld (h : Shows view world other) (hook : Hook α) (s : Session σ) :
    run other hook (s.mapWorld view) =
      ((run world hook s).1, (run world hook s).2.mapWorld view) := by
  induction hook using Program.rec generalizing s with
  | done result => rfl
  | ask r next ih =>
    rw [run_ask, run_ask, handle_mapWorld h]
    exact ih _ _

end Session

/-! ## Secrets as the store -/

namespace World

def missing : SecretCall → ErrorChain
  | .resolve ns ref => ⟨s!"secret {ref.nsOr ns}/{ref.name} not found", []⟩
  | .write _ _ _ _ => ⟨"", []⟩

/-- What a run meets in memory besides the secrets. -/
def surroundings (disturb : Call → Disturbance) : Surroundings World where
  access c w :=
    let d := disturb (.secret c)
    (if d.hangs then .hangs false
      else match d.failure with
        | some error => .fails error d.cancels false
        | none => .granted (missing c) d.cancels, w)
  service c w := collaborators disturb (.service c) w

def withSecrets (state : SecretTable × World) : World := { state.2 with secrets := state.1 }

theorem surroundings_secret (disturb : Call → Disturbance) (c : SecretCall)
    (state : SecretTable × World) :
    collaborators disturb (.secret c) (withSecrets state) =
      (((surroundings disturb).collaborators (.secret c) state).1,
        withSecrets ((surroundings disturb).collaborators (.secret c) state).2) := by
  obtain ⟨table, w⟩ := state
  cases hhangs : (disturb (.secret c)).hangs with
  | true =>
    simp only [collaborators_of_hangs hhangs, Surroundings.collaborators, surroundings, hhangs]
    rfl
  | false =>
    cases hfailure : (disturb (.secret c)).failure with
    | some error =>
      simp only [collaborators_of_failure hhangs hfailure, Surroundings.collaborators, surroundings,
        hhangs, hfailure]
      rfl
    | none =>
      rw [collaborators_of_answer hhangs hfailure]
      simp only [Surroundings.collaborators, surroundings, hhangs, hfailure]
      cases c with
      | write ns name key value => rfl
      | resolve ns ref =>
        rw [answer, answerSecret_resolve]
        simp only [Access.reaction, SecretTable.answer, withSecrets]
        cases table[ref.entry ns]? <;> rfl

theorem surroundings_service (disturb : Call → Disturbance) (c : ServiceCall)
    (state : SecretTable × World) :
    collaborators disturb (.service c) (withSecrets state) =
      (((surroundings disturb).collaborators (.service c) state).1,
        withSecrets ((surroundings disturb).collaborators (.service c) state).2) := by
  obtain ⟨table, w⟩ := state
  simp only [Surroundings.collaborators, surroundings]
  cases hhangs : (disturb (.service c)).hangs with
  | true => rw [collaborators_of_hangs hhangs, collaborators_of_hangs hhangs]
  | false =>
    cases hfailure : (disturb (.service c)).failure with
    | some error =>
      rw [collaborators_of_failure hhangs hfailure, collaborators_of_failure hhangs hfailure]
    | none =>
      rw [collaborators_of_answer hhangs hfailure, collaborators_of_answer hhangs hfailure]
      cases c <;> rfl

theorem surroundings_shows (disturb : Call → Disturbance) :
    Session.Shows withSecrets (surroundings disturb).collaborators (collaborators disturb) := by
  intro c state
  cases c with
  | secret c => exact surroundings_secret disturb c state
  | service c => exact surroundings_service disturb c state

end World

end CertSync
