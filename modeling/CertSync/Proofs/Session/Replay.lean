import CertSync.Proofs.Session.Run
import Mathlib.Logic.Relation
import Mathlib.Order.Defs.Unbundled

/-!
# Runs that are repeated

A driver runs a hook again after it failed, and the collaborators are then in whatever state the
failed runs left. What one run can do to that state is bounded by a relation that is reflexive and
transitive, and so is what any number of runs can do.
-/

namespace CertSync

variable {σ α β : Type}

/-- What a call may have left of something that it has an effect on. A call that completes has had
its effect; one that fails or hangs may or may not have had it. -/
def Reaction.Leaves (reaction : Reaction α) (before effect after : β) : Prop :=
  after = effect ∨ after = before ∧ ∀ a, reaction.ending ≠ .returns a

theorem Reaction.Leaves.of_returns {reaction : Reaction α} {before effect after : β} {a : α}
    (h : reaction.Leaves before effect after) (ha : reaction.ending = .returns a) :
    after = effect := by
  rcases h with h | ⟨_, h⟩
  · exact h
  · exact absurd ha (h a)

/-! ## One run -/

/-- A run of the hook takes the collaborators only to states that `r` relates to the one before. -/
def Within (world : Collaborators σ) (r : σ → σ → Prop) (hook : Hook α) : Prop :=
  ∀ s, r s.world (Session.run world hook s).2.world

namespace Within

variable {world : Collaborators σ} {r : σ → σ → Prop}

theorem discard {hook : Hook α} (h : Within world r hook) :
    Within world r (Functor.discard hook) := by
  intro s
  rw [Session.run_discard]
  exact h s

variable [IsPreorder σ r]

theorem pure (a : α) : Within world r (Pure.pure a) := fun s => refl s.world

theorem throw (e : HookError) : Within world r (MonadExcept.throw e : Hook α) :=
  fun s => refl s.world

theorem log (event : LogEvent) : Within world r (Hook.log event) := fun s => refl s.world

theorem record (entry : ApiRecord) : Within world r (Hook.record entry) := fun s => refl s.world

theorem bind {hook : Hook α} {next : α → Hook β} (h : Within world r hook)
    (hnext : ∀ a, Within world r (next a)) : Within world r (hook >>= next) := by
  intro s
  have h1 := h s
  rw [Session.run_bind]
  rcases hr : Session.run world hook s with ⟨e | a, t⟩ <;> rw [hr] at h1
  · exact h1
  · exact IsTrans.trans _ _ _ h1 (hnext a t)

theorem forM {keys : List β} {each : β → Hook PUnit} (h : ∀ key, Within world r (each key)) :
    Within world r (keys.forM each) := by
  induction keys with
  | nil => exact pure _
  | cons key rest ih => exact bind (h key) fun _ => ih

theorem call {c : Call} (h : ∀ w, r w (world c w).2) : Within world r (Hook.call c) := by
  intro s
  rw [Session.run_call]
  rcases Session.call_world world c s with hc | hc <;> rw [hc]
  · exact refl s.world
  · exact h s.world

theorem attempt {site : Hook.Site} {c : Call} (h : ∀ w, r w (world c w).2) :
    Within world r (site.attempt c) := by
  refine bind (call h) fun outcome => ?_
  cases outcome with
  | completed a => exact pure _
  | failed error => exact pure _
  | stopped => exact throw _

theorem service {site : Hook.Site} {c : ServiceCall} (h : ∀ w, r w (world (.service c) w).2) :
    Within world r (site.service c) := by
  refine bind (call h) fun outcome => ?_
  cases outcome with
  | completed a => exact bind (record _) fun _ => pure _
  | failed error => exact bind (record _) fun _ => throw _
  | stopped => exact bind (record _) fun _ => throw _

theorem write {site : Hook.Site} {ns name key value : String}
    (h : ∀ w, r w (world (.secret (.write ns name key value)) w).2) :
    Within world r (site.write ns name key value) := by
  refine bind (attempt h) fun outcome => ?_
  cases outcome with
  | error error => exact throw _
  | ok _ => exact pure _

theorem resolve {site : Hook.Site} {ns field : String} {ref : SecretRef}
    (h : ∀ w, r w (world (.secret (.resolve ns ref)) w).2) :
    Within world r (site.resolve ns field ref) := by
  refine bind (attempt h) fun outcome => ?_
  cases outcome with
  | error error => exact bind (log _) fun _ => throw _
  | ok value => exact pure _

end Within

/-! ## Any number of runs -/

def Rerun (kind : Collaborators σ → Prop) (hook : Hook α) (before after : σ) : Prop :=
  ∃ world, kind world ∧
    ∃ s : Session σ, s.world = before ∧ (Session.run world hook s).2.world = after

/-- Runs of a hook, each of which meets what the one before it left. -/
abbrev Reruns (kind : Collaborators σ → Prop) (hook : Hook α) : σ → σ → Prop :=
  Relation.ReflTransGen (Rerun kind hook)

theorem Reruns.within {kind : Collaborators σ → Prop} {hook : Hook α} {r : σ → σ → Prop}
    [IsPreorder σ r] (hkind : ∀ world, kind world → Within world r hook) {before after : σ}
    (h : Reruns kind hook before after) : r before after := by
  induction h with
  | refl => exact refl _
  | tail _ hrun ih =>
    obtain ⟨world, hw, s, rfl, rfl⟩ := hrun
    exact IsTrans.trans _ _ _ ih (hkind world hw s)

end CertSync
