import CertSync.Proofs.Session.Memory
import CertSync.Proofs.Session.Trace

/-!
# Runs that nothing disturbs

Some calls fail because of what they find, and will fail for as long as it is there; others fail
once and may succeed the next time. Collaborators that are steady fail only in the first way. A
terminal error of any run is an error that they lead to as well, unless it is about a reference that
merely could not be resolved at the time.
-/

namespace CertSync

variable {σ τ α : Type}

namespace Collaborators

/-- Every call ends, in a way that only what it finds decides, and nobody cancels the run. -/
def Steady (steady : Collaborators σ) : Prop :=
  ∀ c w, (steady c w).1.cancels = false ∧ (steady c w).1.ending ≠ .hangs

/-- Any call may fail or hang, and the run may be cancelled; but a call that returns does so like
the steady one, which sees no more than the `view` of a state. -/
def Falters (view : τ → σ) (steady : Collaborators σ) (world : Collaborators τ) : Prop :=
  ∀ c w a, (world c w).1.ending = .returns a →
    (steady c (view w)).1.ending = .returns a ∧ (steady c (view w)).2 = view (world c w).2

/-- The call fails where the steady one returns. -/
def FailsTransiently (view : τ → σ) (steady : Collaborators σ) (world : Collaborators τ) (c : Call)
    (w : τ) : Prop :=
  (∃ error, (world c w).1.ending = .fails error) ∧ ∃ a, (steady c (view w)).1.ending = .returns a

end Collaborators

/-! ## Collaborators in memory -/

namespace World

theorem collaborators_steady : Collaborators.Steady (collaborators fun _ => {}) := by
  intro c w
  rw [collaborators_of_answer rfl rfl]
  rcases w.answer c with ⟨_ | _, _⟩ <;> exact ⟨rfl, fun h => nomatch h⟩

theorem collaborators_falters (disturb : Call → Disturbance) :
    Collaborators.Falters id (collaborators fun _ => {}) (collaborators disturb) := by
  intro c w a ha
  have hanswer := answer_of_returns ha
  have hafter := (leaves disturb c w id).of_returns ha
  rw [id, collaborators_of_answer rfl rfl]
  rcases hw : w.answer c with ⟨_ | b, after⟩ <;> rw [hw] at hanswer hafter
  · exact nomatch hanswer
  · cases hanswer
    exact ⟨rfl, hafter.symm⟩

theorem not_failsTransiently {disturb : Call → Disturbance} {c : Call}
    (hc : (disturb c).hangs = false) (hf : (disturb c).failure = none) (w : World) :
    ¬Collaborators.FailsTransiently id (collaborators fun _ => {}) (collaborators disturb) c w := by
  rintro ⟨⟨error, hfails⟩, a, hreturns⟩
  rw [collaborators_of_answer hc hf] at hfails
  rw [id, collaborators_of_answer rfl rfl] at hreturns
  rcases hw : w.answer c with ⟨_ | b, after⟩
  · simp [hw] at hreturns
  · simp [hw] at hfails

end World

/-! ## Terminal errors -/

def IsTerminal (result : Except HookError α) : Prop :=
  ∃ e, result = .error e ∧ e.isTerminal = true

instance (result : Except HookError α) : Decidable (IsTerminal result) :=
  match result with
  | .ok _ => isFalse fun ⟨_, h, _⟩ => nomatch h
  | .error e => decidable_of_iff (e.isTerminal = true)
    ⟨fun h => ⟨e, rfl, h⟩, fun ⟨_, h, he⟩ => Except.error.inj h ▸ he⟩

theorem Call.failure_terminal {field : String} {c : Call} {error : ErrorChain} {site : Hook.Site}
    (h : (site.error (c.failure field error)).isTerminal = true) :
    ∃ ns ref, c = .secret (.resolve ns ref) := by
  rcases c with (⟨ns, ref⟩ | _) | _
  · exact ⟨ns, ref, rfl⟩
  · exact nomatch h
  · exact nomatch h

namespace Session

open Collaborators

variable {view : τ → σ} {steady : Collaborators σ} {world : Collaborators τ}

theorem run_terminal_of_fails {site : Hook.Site} {field : String} {c : Call}
    {next : Outcome c.Answer → Hook α}
    (failed : ∀ error, Hook.Ends (site.error (c.failure field error)) (next (.failed error)))
    (hsteady : Steady steady) {s : Session σ} (hs : s.cancelled = false) {error : ErrorChain}
    (he : (site.error (c.failure field error)).isTerminal = true) :
    (∃ t, run steady (Program.ask (.call c) next : Hook α) s =
      (.error (site.error (c.failure field error)), t)) ∨
    ∃ ns ref, c = .secret (.resolve ns ref) ∧ ∃ a, (steady c s.world).1.ending = .returns a := by
  obtain ⟨ns, ref, rfl⟩ := Call.failure_terminal he
  cases hending : (steady (.secret (.resolve ns ref)) s.world).1.ending with
  | returns a => exact .inr ⟨ns, ref, rfl, a, rfl⟩
  | hangs => exact absurd hending (hsteady _ _).2
  | fails error' =>
    obtain ⟨t, ht, -⟩ := run_of_ends steady (failed error') (s.started steady _)
    left
    rw [run_ask_call, call_of_fails hs hending]
    exact ⟨t, ht⟩

/-- The only terminal errors that may go away are those about a reference that could not be
resolved at the time. -/
theorem run_terminal {hook : Hook α} (h : hook.Prompt) (hsteady : Steady steady)
    (hfalters : Falters view steady world) {s t : Session τ} {s' : Session σ} {e : HookError}
    (hworld : s'.world = view s.world) (hs' : s'.cancelled = false)
    (hrun : run world hook s = (.error e, t)) (he : e.isTerminal = true) :
    (∃ t', run steady hook s' = (.error e, t')) ∨
      ∃ field ns ref w, e.cause = .terminal (.unresolvedSecret field ref.toText) ∧
        (.secret (.resolve ns ref), w) ∈ trace world hook s ∧
        FailsTransiently view steady world (.secret (.resolve ns ref)) w := by
  induction h generalizing s s' with
  | done result =>
    obtain ⟨rfl, rfl⟩ := Prod.mk.inj hrun
    exact .inl ⟨s', rfl⟩
  | @note r next hr _ ih =>
    have a := (handle world r s).1
    have hs := handle_note world hr s
    have hnext := handle_note steady hr s'
    rw [run_note hr _ a] at hrun
    rw [run_note hr _ a, trace_note hr _ a]
    refine ih a ?_ (hnext.cancelled.trans hs') hrun
    rw [hnext.world, hs.world, hworld]
  | @call c next site field _ failed stopped ih =>
    -- A run that was stopped ends in another kind of error.
    have hgoes : ∀ u, run world (next .stopped) u ≠ (.error e, t) := by
      intro u hu
      cases error_of_ends stopped hu
      exact nomatch he
    rw [run_ask_call] at hrun
    cases hs : s.cancelled with
    | true =>
      rw [call_of_cancelled hs] at hrun
      exact absurd hrun (hgoes s)
    | false =>
      rw [trace_call hs]
      cases hending : (world c s.world).1.ending with
      | hangs =>
        rw [call_of_hangs hs hending] at hrun
        exact absurd hrun (hgoes _)
      | returns a =>
        obtain ⟨hreturns, hafter⟩ := hfalters c s.world a hending
        rw [← hworld] at hreturns hafter
        rw [call_of_returns hs hending] at hrun ⊢
        rw [run_ask_call, call_of_returns hs' hreturns]
        refine (ih a hafter (hsteady c _).1 hrun).imp_right ?_
        rintro ⟨field, ns, ref, w, hcause, hmem, hfails⟩
        exact ⟨field, ns, ref, w, hcause, List.mem_cons_of_mem _ hmem, hfails⟩
      | fails error =>
        rw [call_of_fails hs hending] at hrun
        cases error_of_ends (failed error) hrun
        refine (run_terminal_of_fails failed hsteady hs' he).imp_right ?_
        rintro ⟨ns, ref, rfl, a, ha⟩
        rw [hworld] at ha
        exact ⟨field, ns, ref, s.world, rfl, List.mem_cons_self, ⟨error, hending⟩, a, ha⟩

end Session

end CertSync
