import CertSync.Proofs.Session.Trace

/-!
# Runs where one call goes wrong

One call of a run fails, hangs, or goes as it would have while the run is cancelled. The run is set
beside the one where nothing of the kind happens: up to that call the two are the same, and after it
the disturbed run starts no other.
-/

namespace CertSync

variable {σ τ α : Type}

/-- What may happen to a call. One that fails or hangs may or may not have had its effect, so what
it leaves is left open. -/
inductive Mishap (σ : Type) where
  | fails (error : ErrorChain) (cancels : Bool) (after : σ)
  | hangs (after : σ)
  /-- The call is not touched, but the run is cancelled while it is under way. -/
  | cancelled

def Mishap.befall (m : Mishap σ) (calm : Reaction α × σ) : Reaction α × σ :=
  match m with
  | fails error cancels after => (⟨.fails error, cancels⟩, after)
  | hangs after => (⟨.hangs, true⟩, after)
  | cancelled => ({ calm.1 with cancels := true }, calm.2)

/-- The collaborators, but something happens to the call that comes after `n` others. They count
the calls. -/
def Collaborators.disturbed (world : Collaborators σ) (n : Nat) (m : Mishap σ) :
    Collaborators (Nat × σ) := fun c w =>
  let reacts := if w.1 = n then m.befall (world c w.2) else world c w.2
  (reacts.1, (w.1 + 1, reacts.2))

def IsCancelled (result : Except HookError α) : Prop :=
  ∃ e, result = .error e ∧ e.cause = .cancelled

/-- A run that was cancelled when it had started `n` calls, beside the one that was not. -/
structure CutOff (n : Nat) (calm : Except HookError α × Session σ)
    (cut : Except HookError α × Session τ) : Prop where
  calls : cut.2.calls = calm.2.calls.take n
  /-- Another call was due. -/
  due : n < calm.2.calls.length → IsCancelled cut.1
  /-- No other call was due. -/
  finished : calm.2.calls.length ≤ n → cut.1 = calm.1

namespace Session

variable {world : Collaborators σ} {other : Collaborators τ}

theorem cutOff_of_same {n : Nat} {calm : Except HookError α × Session σ}
    {cut : Except HookError α × Session τ} (hresult : cut.1 = calm.1)
    (hcalls : cut.2.calls = calm.2.calls) (hn : calm.2.calls.length ≤ n) : CutOff n calm cut where
  calls := by rw [List.take_of_length_le hn, hcalls]
  due h := absurd h (Nat.not_lt.mpr hn)
  finished _ := hresult

/-! ## A run that is cancelled from here on -/

theorem cutOff_of_cancelled {hook : Hook α} (h : hook.Prompt) (s : Session σ) (t : Session τ)
    (hcancelled : t.cancelled = true) (hcalls : t.calls = s.calls) :
    CutOff s.calls.length (run world hook s) (run other hook t) := by
  induction h generalizing s t with
  | done result => exact cutOff_of_same rfl hcalls (Nat.le_refl _)
  | @note r _ hr _ ih =>
    have a := (handle world r s).1
    have hs := handle_note world hr s
    have ht := handle_note other hr t
    rw [run_note hr _ a, run_note hr _ a, ← hs.calls]
    exact ih a _ _ (ht.cancelled.trans hcancelled) (ht.calls.trans (hcalls.trans hs.calls.symm))
  | @call c next site _ _ _ stopped _ =>
    obtain ⟨t', ht', halike⟩ := run_of_ends other stopped t
    rw [run_ask_call, run_ask_call, call_of_cancelled hcancelled, ht']
    cases hs : s.cancelled with
    | true =>
      obtain ⟨s', hs', halike'⟩ := run_of_ends world stopped s
      rw [call_of_cancelled hs, hs']
      exact cutOff_of_same rfl (halike.calls.trans (hcalls.trans halike'.calls.symm))
        (Nat.le_of_eq (congrArg List.length halike'.calls))
    | false =>
      -- The other run starts this call, and so it starts more than this one.
      obtain ⟨rest, hrest⟩ := calls_prefix world (next (call world c s).1) (call world c s).2
      rw [call_calls hs] at hrest
      refine ⟨?_, fun _ => ⟨_, rfl, rfl⟩, fun hover => ?_⟩
      · rw [← hrest, List.append_assoc, List.take_left, halike.calls, hcalls]
      · rw [← hrest, List.length_append, List.length_append, List.length_singleton] at hover
        omega

/-! ## Up to the call -/

/-- Two runs that have come equally far, one of them with the calls counted. -/
structure Abreast (s : Session σ) (t : Session (Nat × σ)) : Prop where
  world : t.world = (s.calls.length, s.world)
  cancelled : t.cancelled = s.cancelled
  calls : t.calls = s.calls

variable {n : Nat} {m : Mishap σ}

theorem Abreast.handle_note {r : Effect} (hr : ∀ c, r ≠ .call c) {s : Session σ}
    {t : Session (Nat × σ)} (h : Abreast s t) :
    Abreast (handle world r s).2 (handle (world.disturbed n m) r t).2 := by
  have hs := Session.handle_note world hr s
  have ht := Session.handle_note (world.disturbed n m) hr t
  refine ⟨?_, ?_, ?_⟩
  · rw [ht.world, hs.world, hs.calls, h.world]
  · rw [ht.cancelled, hs.cancelled, h.cancelled]
  · rw [ht.calls, hs.calls, h.calls]

/-- A call that is not disturbed goes the same way in both runs. -/
theorem Abreast.call {s : Session σ} {t : Session (Nat × σ)} (h : Abreast s t)
    (world : Collaborators σ) (m : Mishap σ) (hs : s.cancelled = false) (hn : s.calls.length ≠ n)
    (c : Call) :
    (call (world.disturbed n m) c t).1 = (call world c s).1 ∧
      Abreast (call world c s).2 (call (world.disturbed n m) c t).2 := by
  have hreacts : world.disturbed n m c t.world =
      ((world c s.world).1, (s.calls.length + 1, (world c s.world).2)) := by
    rw [h.world, Collaborators.disturbed, if_neg hn]
  rw [call_of_not_cancelled hs, call_of_not_cancelled (h.cancelled.trans hs), hreacts]
  cases (world c s.world).1.ending with
  | returns a =>
    refine ⟨rfl, ?_, ?_, ?_⟩ <;> simp [started, hreacts, h.calls]
  | fails error =>
    refine ⟨rfl, ?_, ?_, ?_⟩ <;> simp [started, hreacts, h.calls]
  | hangs =>
    refine ⟨rfl, ?_, ?_, ?_⟩ <;> simp [started, hreacts, h.calls]

theorem Abreast.of_ends {s : Session σ} {t : Session (Nat × σ)} (h : Abreast s t)
    (world : Collaborators σ) (n : Nat) (m : Mishap σ) {e : HookError} {hook : Hook α}
    (hook_ends : hook.Ends e) :
    (run (world.disturbed n m) hook t).1 = (run world hook s).1 ∧
      (run (world.disturbed n m) hook t).2.calls = (run world hook s).2.calls ∧
      (run world hook s).2.calls = s.calls := by
  obtain ⟨s', hs', hs⟩ := run_of_ends world hook_ends s
  obtain ⟨t', ht', ht⟩ := run_of_ends (world.disturbed n m) hook_ends t
  rw [hs', ht']
  exact ⟨rfl, ht.calls.trans (h.calls.trans hs.calls.symm), hs.calls⟩

theorem comes_to (world : Collaborators σ) (m : Mishap σ) {hook : Hook α} (h : hook.Prompt)
    {s : Session σ} {t : Session (Nat × σ)} (hst : Abreast s t) (hn : s.calls.length ≤ n) :
    ((run (world.disturbed n m) hook t).1 = (run world hook s).1 ∧
      (run (world.disturbed n m) hook t).2.calls = (run world hook s).2.calls ∧
      (run world hook s).2.calls.length ≤ n) ∨
    ∃ (c : Call) (next : Outcome c.Answer → Hook α) (s' : Session σ) (t' : Session (Nat × σ)),
      Hook.Prompt (Program.ask (.call c) next) ∧ Abreast s' t' ∧ s'.calls.length = n ∧
      s'.cancelled = false ∧ run world hook s = run world (Program.ask (.call c) next) s' ∧
      run (world.disturbed n m) hook t =
        run (world.disturbed n m) (Program.ask (.call c) next) t' := by
  induction h generalizing s t with
  | done result => exact .inl ⟨rfl, hst.calls, hn⟩
  | @note r _ hr _ ih =>
    have a := (handle world r s).1
    rw [run_note hr _ a, run_note hr _ a]
    refine ih a (hst.handle_note hr) ?_
    rw [(Session.handle_note world hr s).calls]
    exact hn
  | @call c next site field completed failed stopped ih =>
    cases hs : s.cancelled with
    | true =>
      rw [run_ask_call, run_ask_call, call_of_cancelled hs,
        call_of_cancelled (hst.cancelled.trans hs)]
      obtain ⟨hresult, hcalls, hsame⟩ := hst.of_ends world n m stopped
      exact .inl ⟨hresult, hcalls, hsame ▸ hn⟩
    | false =>
      rcases Nat.eq_or_lt_of_le hn with hn | hn
      · exact .inr ⟨c, next, s, t, .call site field completed failed stopped, hst, hn, hs, rfl, rfl⟩
      obtain ⟨houtcome, hnext⟩ := hst.call world m hs (Nat.ne_of_lt hn) c
      have hlength : (call world c s).2.calls.length ≤ n := by
        rw [call_calls hs, List.length_append, List.length_singleton]
        exact hn
      rw [run_ask_call, run_ask_call, houtcome]
      cases hcall : (call world c s).1 with
      | completed a => exact ih a hnext hlength
      | failed error =>
        obtain ⟨hresult, hcalls, hsame⟩ := hnext.of_ends world n m (failed error)
        exact .inl ⟨hresult, hcalls, hsame ▸ hlength⟩
      | stopped =>
        obtain ⟨hresult, hcalls, hsame⟩ := hnext.of_ends world n m stopped
        exact .inl ⟨hresult, hcalls, hsame ▸ hlength⟩

/-! ## At the call -/

theorem disturbed_at {s : Session σ} {t : Session (Nat × σ)} (h : Abreast s t)
    (hn : s.calls.length = n) (c : Call) :
    world.disturbed n m c t.world =
      ((m.befall (world c s.world)).1, (n + 1, (m.befall (world c s.world)).2)) := by
  rw [h.world, Collaborators.disturbed, if_pos hn, hn]

theorem take_calls {c : Call} {next : Outcome c.Answer → Hook α} {s : Session σ}
    (hs : s.cancelled = false) (hn : s.calls.length = n) :
    n < (run world (Program.ask (.call c) next : Hook α) s).2.calls.length ∧
      (run world (Program.ask (.call c) next : Hook α) s).2.calls.take (n + 1) =
        s.calls ++ [c] := by
  rw [run_ask_call]
  obtain ⟨rest, hrest⟩ := calls_prefix world (next (call world c s).1) (call world c s).2
  rw [call_calls hs] at hrest
  have hlength : (s.calls ++ [c]).length = n + 1 := by
    rw [List.length_append, List.length_singleton, hn]
  rw [← hrest]
  constructor
  · rw [List.length_append, hlength]
    omega
  · rw [← hlength, List.take_left]

variable {hook : Hook α} {s : Session σ} {t : Session (Nat × σ)}

theorem run_ends_at {P : HookError → Prop} (h : hook.Prompt) (hst : Abreast s t)
    (hn : s.calls.length ≤ n)
    (hends : ∀ (c : Call) (next : Outcome c.Answer → Hook α) (s' : Session σ)
      (t' : Session (Nat × σ)), Hook.Prompt (Program.ask (.call c) next) → Abreast s' t' →
      s'.calls.length = n → s'.cancelled = false →
      ∃ e, P e ∧ (next (call (world.disturbed n m) c t').1).Ends e) :
    (run (world.disturbed n m) hook t).2.calls = (run world hook s).2.calls.take (n + 1) ∧
      (n < (run world hook s).2.calls.length →
        ∃ e, (run (world.disturbed n m) hook t).1 = .error e ∧ P e) := by
  rcases comes_to world m h hst hn with
    ⟨-, hcalls, hlength⟩ | ⟨c, next, s', t', hprompt, hst', hn', hs', hcalm, hcut⟩
  · rw [List.take_of_length_le (Nat.le_succ_of_le hlength)]
    exact ⟨hcalls, fun hlt => absurd hlt (Nat.not_lt.mpr hlength)⟩
  obtain ⟨e, he, hnext⟩ := hends c next s' t' hprompt hst' hn' hs'
  obtain ⟨t'', ht'', halike⟩ := run_of_ends _ hnext (call (world.disturbed n m) c t').2
  rw [hcalm, hcut, (take_calls hs' hn').2, run_ask_call, ht'']
  refine ⟨?_, fun _ => ⟨e, rfl, he⟩⟩
  rw [halike.calls, call_calls (hst'.cancelled.trans hs'), hst'.calls]

theorem run_fails (h : hook.Prompt) (hst : Abreast s t) (hn : s.calls.length ≤ n)
    (error : ErrorChain) (cancels : Bool) (after : σ) :
    let cut := run (world.disturbed n (.fails error cancels after)) hook t
    cut.2.calls = (run world hook s).2.calls.take (n + 1) ∧
      (n < (run world hook s).2.calls.length → ∃ e, cut.1 = .error e ∧ e.cause ≠ .cancelled) := by
  refine run_ends_at h hst hn fun c next s' t' hprompt hst' hn' hs' => ?_
  rw [call_outcome (hst'.cancelled.trans hs'), disturbed_at hst' hn']
  cases hprompt with
  | note hr _ => exact absurd rfl (hr c)
  | call site field _ failed _ => exact ⟨_, Call.failure_ne_cancelled field c error, failed error⟩

theorem run_hangs (h : hook.Prompt) (hst : Abreast s t) (hn : s.calls.length ≤ n) (after : σ) :
    let cut := run (world.disturbed n (.hangs after)) hook t
    cut.2.calls = (run world hook s).2.calls.take (n + 1) ∧
      (n < (run world hook s).2.calls.length → IsCancelled cut.1) := by
  refine run_ends_at h hst hn fun c next s' t' hprompt hst' hn' hs' => ?_
  rw [call_outcome (hst'.cancelled.trans hs'), disturbed_at hst' hn']
  cases hprompt with
  | note hr _ => exact absurd rfl (hr c)
  | call site field _ _ stopped => exact ⟨_, rfl, stopped⟩

theorem run_cancelled (h : hook.Prompt) (hst : Abreast s t) (hn : s.calls.length ≤ n) :
    CutOff (n + 1) (run world hook s) (run (world.disturbed n .cancelled) hook t) := by
  rcases comes_to world .cancelled h hst hn with
    ⟨hresult, hcalls, hlength⟩ | ⟨c, next, s', t', hprompt, hst', hn', hs', hcalm, hcut⟩
  · exact cutOff_of_same hresult hcalls (Nat.le_succ_of_le hlength)
  rw [hcalm, hcut, run_ask_call, run_ask_call]
  have ht' : t'.cancelled = false := hst'.cancelled.trans hs'
  have hcalls : (call (world.disturbed n .cancelled) c t').2.calls = (call world c s').2.calls := by
    rw [call_calls hs', call_calls ht', hst'.calls]
  have hlength : (call world c s').2.calls.length = n + 1 := by
    rw [call_calls hs', List.length_append, List.length_singleton, hn']
  have houtcome : (call (world.disturbed n .cancelled) c t').1 = (call world c s').1 := by
    rw [call_outcome ht', call_outcome hs', disturbed_at hst' hn']
    rfl
  rw [houtcome, ← hlength]
  refine cutOff_of_cancelled (hprompt.next _) _ _ (call_cancelled_of_cancels ht' ?_) hcalls
  rw [disturbed_at hst' hn']
  rfl

end Session

end CertSync
