import CertSync.Proofs.Session.Prompt

/-!
# The calls of a run

A run starts its calls one after the other, each in the state that the one before it left. The trace
of a run lists them with those states; what a run adds to the calls of its session is its trace.
-/

namespace CertSync.Session

variable {σ τ α β : Type} {world : Collaborators σ}

/-! ## One effect -/

theorem run_ask (r : Effect) (next : r.Answer → Program Effect Effect.Answer (Except HookError α))
    (s : Session σ) :
    run world (Program.ask r next) s =
      run world (next (handle world r s).1) (handle world r s).2 := rfl

theorem run_ask_call (c : Call) (next : Outcome c.Answer → Hook α) (s : Session σ) :
    run world (Program.ask (.call c) next : Hook α) s =
      run world (next (call world c s).1) (call world c s).2 := rfl

/-- Only what is noted down may differ. -/
structure Alike (s t : Session σ) : Prop where
  world : t.world = s.world
  cancelled : t.cancelled = s.cancelled
  calls : t.calls = s.calls

theorem handle_note (world : Collaborators σ) {r : Effect} (hr : ∀ c, r ≠ .call c)
    (s : Session σ) :
    Alike s (handle world r s).2 := by
  cases r with
  | call c => exact absurd rfl (hr c)
  | record entry => exact ⟨rfl, rfl, rfl⟩
  | log event => exact ⟨rfl, rfl, rfl⟩
  | wait seconds => exact ⟨rfl, rfl, rfl⟩

theorem run_note {r : Effect} (hr : ∀ c, r ≠ .call c) (next : r.Answer → Hook α) (a : r.Answer)
    (s : Session σ) :
    run world (Program.ask r next : Hook α) s = run world (next a) (handle world r s).2 := by
  cases r with
  | call c => exact absurd rfl (hr c)
  | record entry => rfl
  | log event => rfl
  | wait seconds => rfl

theorem Alike.trans {s t u : Session σ} (hst : Alike s t) (htu : Alike t u) : Alike s u :=
  ⟨htu.world.trans hst.world, htu.cancelled.trans hst.cancelled, htu.calls.trans hst.calls⟩

theorem Alike.call {s t : Session σ} (h : Alike s t) (c : Call) :
    (call world c t).1 = (call world c s).1 ∧ Alike (call world c s).2 (call world c t).2 := by
  cases hs : s.cancelled with
  | true =>
    rw [call_of_cancelled hs, call_of_cancelled (h.cancelled.trans hs)]
    exact ⟨rfl, h⟩
  | false =>
    have hstarted : Alike (s.started world c) (t.started world c) := by
      unfold started
      refine ⟨?_, ?_, ?_⟩ <;> simp only [h.world, h.calls]
    rw [call_of_not_cancelled hs, call_of_not_cancelled (h.cancelled.trans hs), h.world]
    cases (world c s.world).1.ending with
    | returns a => exact ⟨rfl, hstarted⟩
    | fails error => exact ⟨rfl, hstarted⟩
    | hangs => exact ⟨rfl, hstarted.world, rfl, hstarted.calls⟩

theorem Alike.handle {s t : Session σ} (h : Alike s t) (world : Collaborators σ) (r : Effect) :
    (handle world r t).1 = (handle world r s).1 ∧
      Alike (handle world r s).2 (handle world r t).2 := by
  cases r with
  | call c => exact h.call c
  | record entry => exact ⟨rfl, h.world, h.cancelled, h.calls⟩
  | log event => exact ⟨rfl, h.world, h.cancelled, h.calls⟩
  | wait seconds => exact ⟨rfl, h.world, h.cancelled, h.calls⟩

theorem Alike.run {s t : Session σ} (h : Alike s t) (world : Collaborators σ) (hook : Hook α) :
    (run world hook t).1 = (run world hook s).1 ∧
      Alike (run world hook s).2 (run world hook t).2 := by
  induction hook using Program.rec generalizing s t with
  | done result => exact ⟨rfl, h⟩
  | ask r next ih =>
    obtain ⟨hanswer, hnext⟩ := h.handle world r
    rw [run_ask, run_ask, hanswer]
    exact ih _ hnext

theorem exists_run_log (world : Collaborators σ) (event : LogEvent) (s : Session σ) :
    ∃ t, run world (Hook.log event) s = (.ok (), t) ∧ Alike s t :=
  ⟨_, run_log event s, rfl, rfl, rfl⟩

theorem run_of_ends (world : Collaborators σ) {e : HookError} {hook : Hook α} (h : hook.Ends e)
    (s : Session σ) :
    ∃ t, run world hook s = (.error e, t) ∧ Alike s t := by
  induction h generalizing s with
  | throw => exact ⟨s, rfl, rfl, rfl, rfl⟩
  | note hr _ ih =>
    obtain ⟨t, ht, halike⟩ := ih (handle world _ s).1 (handle world _ s).2
    exact ⟨t, ht, (handle_note world hr s).trans halike⟩

theorem error_of_ends {e e' : HookError} {hook : Hook α} (h : hook.Ends e) {s t : Session σ}
    (hrun : run world hook s = (.error e', t)) : e' = e := by
  obtain ⟨u, hu, -⟩ := run_of_ends world h s
  rw [hu] at hrun
  cases hrun
  rfl

/-! ## The trace -/

/-- The call that an effect starts, with the state that the collaborators are in. -/
def starting (s : Session σ) : Effect → List (Call × σ)
  | .call c => if s.cancelled then [] else [(c, s.world)]
  | _ => []

def trace (world : Collaborators σ) :
    Program Effect Effect.Answer (Except HookError α) → Session σ → List (Call × σ)
  | .done _, _ => []
  | .ask r next, s =>
    s.starting r ++ trace world (next (handle world r s).1) (handle world r s).2

theorem trace_ask (r : Effect) (next : r.Answer → Hook α) (s : Session σ) :
    trace world (Program.ask r next) s =
      s.starting r ++ trace world (next (handle world r s).1) (handle world r s).2 := rfl

theorem trace_note {r : Effect} (hr : ∀ c, r ≠ .call c) (next : r.Answer → Hook α) (a : r.Answer)
    (s : Session σ) :
    trace world (Program.ask r next) s = trace world (next a) (handle world r s).2 := by
  cases r with
  | call c => exact absurd rfl (hr c)
  | record entry => rfl
  | log event => rfl
  | wait seconds => rfl

theorem starting_of_cancelled {s : Session σ} (h : s.cancelled = true) (c : Call) :
    s.starting (.call c) = [] := if_pos h

theorem starting_of_not_cancelled {s : Session σ} (h : s.cancelled = false) (c : Call) :
    s.starting (.call c) = [(c, s.world)] := if_neg (by simp [h])

theorem trace_call {c : Call} {s : Session σ} (h : s.cancelled = false)
    (next : Outcome c.Answer → Hook α) :
    trace world (Program.ask (.call c) next) s =
      (c, s.world) :: trace world (next (call world c s).1) (call world c s).2 := by
  refine (trace_ask (.call c) next s).trans ?_
  rw [starting_of_not_cancelled h]
  rfl

theorem trace_stopped {c : Call} {s : Session σ} (h : s.cancelled = true)
    (next : Outcome c.Answer → Hook α) :
    trace world (Program.ask (.call c) next) s = trace world (next .stopped) s := by
  refine (trace_ask (.call c) next s).trans ?_
  rw [starting_of_cancelled h]
  change trace world (next (call world c s).1) (call world c s).2 = _
  rw [call_of_cancelled h]

theorem handle_calls (world : Collaborators σ) (r : Effect) (s : Session σ) :
    (handle world r s).2.calls = s.calls ++ (s.starting r).map Prod.fst := by
  cases r with
  | call c =>
    change (call world c s).2.calls = _
    cases hs : s.cancelled with
    | true => simp [call_of_cancelled hs, starting_of_cancelled hs]
    | false =>
      rw [call_of_not_cancelled hs, starting_of_not_cancelled hs]
      split <;> rfl
  | record entry => exact (List.append_nil _).symm
  | log event => exact (List.append_nil _).symm
  | wait seconds => exact (List.append_nil _).symm

theorem call_calls {c : Call} {s : Session σ} (h : s.cancelled = false) :
    (call world c s).2.calls = s.calls ++ [c] := by
  refine (handle_calls world (.call c) s).trans ?_
  rw [starting_of_not_cancelled h]
  rfl

theorem service_calls (site : Hook.Site) (c : ServiceCall) (s : Session σ) :
    (run world (site.service c) s).2.calls = (call world (.service c) s).2.calls := by
  rw [run_service]
  rcases call world (.service c) s with ⟨_ | _ | _, t⟩ <;> rfl

theorem call_outcome {c : Call} {s : Session σ} (h : s.cancelled = false) :
    (call world c s).1 =
      match (world c s.world).1.ending with
      | .returns a => .completed a
      | .fails error => .failed error
      | .hangs => .stopped := by
  rw [call_of_not_cancelled h]
  cases (world c s.world).1.ending <;> rfl

theorem call_world_of_not_cancelled {c : Call} {s : Session σ} (h : s.cancelled = false) :
    (call world c s).2.world = (world c s.world).2 := by
  rw [call_of_not_cancelled h]
  cases (world c s.world).1.ending <;> rfl

theorem call_cancelled_of_cancels {c : Call} {s : Session σ} (h : s.cancelled = false)
    (hcancels : (world c s.world).1.cancels = true) : (call world c s).2.cancelled = true := by
  rw [call_of_not_cancelled h]
  cases (world c s.world).1.ending with
  | returns a => exact hcancels
  | fails error => exact hcancels
  | hangs => rfl

theorem run_calls (world : Collaborators σ) (hook : Hook α) (s : Session σ) :
    (run world hook s).2.calls = s.calls ++ (trace world hook s).map Prod.fst := by
  induction hook using Program.rec generalizing s with
  | done result => exact (List.append_nil _).symm
  | ask r next ih =>
    refine (ih (handle world r s).1 (handle world r s).2).trans ?_
    rw [handle_calls, trace_ask, List.map_append, List.append_assoc]

theorem calls_prefix (world : Collaborators σ) (hook : Hook α) (s : Session σ) :
    s.calls <+: (run world hook s).2.calls := by
  rw [run_calls]
  exact List.prefix_append _ _

end CertSync.Session
