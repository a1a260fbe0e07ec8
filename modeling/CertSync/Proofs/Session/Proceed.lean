import CertSync.Proofs.Session.Steady

/-!
# Runs that nothing cancels

Such a run is a chain of calls, each made in the state that the one before it left, and each of them
returns or fails. What is noted down on the way has no part in it.
-/

namespace CertSync

variable {σ α β : Type} {world : Collaborators σ}

namespace Hook

/-- From the state `w` the hook makes the calls `made`, each listed with the state it is made in,
and ends with the result in the state `w'`. -/
inductive Proceeds (world : Collaborators σ) :
    Hook α → σ → List (Call × σ) → Except HookError α → σ → Prop
  | done (result : Except HookError α) (w : σ) : Proceeds world (Program.done result) w [] result w
  | note {r : Effect} {next : r.Answer → Hook α} {a : r.Answer} {w w' : σ}
      {made : List (Call × σ)} {result : Except HookError α} (hr : ∀ c, r ≠ .call c)
      (h : Proceeds world (next a) w made result w') :
      Proceeds world (Program.ask r next) w made result w'
  | returned {c : Call} {next : Outcome c.Answer → Hook α} {a : c.Answer} {w w1 w' : σ}
      {made : List (Call × σ)} {result : Except HookError α}
      (hcall : world c w = (⟨.returns a, false⟩, w1))
      (h : Proceeds world (next (.completed a)) w1 made result w') :
      Proceeds world (Program.ask (.call c) next) w ((c, w) :: made) result w'
  | failed {c : Call} {next : Outcome c.Answer → Hook α} {error : ErrorChain} {w w1 w' : σ}
      {made : List (Call × σ)} {result : Except HookError α}
      (hcall : world c w = (⟨.fails error, false⟩, w1))
      (h : Proceeds world (next (.failed error)) w1 made result w') :
      Proceeds world (Program.ask (.call c) next) w ((c, w) :: made) result w'

namespace Proceeds

variable {w w' : σ} {made : List (Call × σ)}

theorem of_pure {a : α} {result : Except HookError α}
    (h : (pure a : Hook α).Proceeds world w made result w') :
    made = [] ∧ result = .ok a ∧ w' = w := by
  cases h
  exact ⟨rfl, rfl, rfl⟩

theorem of_throw {e : HookError} {result : Except HookError α}
    (h : (throw e : Hook α).Proceeds world w made result w') :
    made = [] ∧ result = .error e ∧ w' = w := by
  cases h
  exact ⟨rfl, rfl, rfl⟩

theorem of_log {event : LogEvent} {next : Unit → Hook α} {result : Except HookError α}
    (h : (Hook.log event >>= next).Proceeds world w made result w') :
    (next ()).Proceeds world w made result w' := by
  cases h with
  | note _ h => exact h

theorem of_call {c : Call} {next : Outcome c.Answer → Hook α} {result : Except HookError α}
    (h : Proceeds world (Program.ask (.call c) next) w made result w') :
    ∃ rest w1, made = (c, w) :: rest ∧
      ((∃ a, world c w = (⟨.returns a, false⟩, w1) ∧
        (next (.completed a)).Proceeds world w1 rest result w') ∨
      ∃ error, world c w = (⟨.fails error, false⟩, w1) ∧
        (next (.failed error)).Proceeds world w1 rest result w') := by
  cases h with
  | note hr _ => exact absurd rfl (hr c)
  | returned hcall h => exact ⟨_, _, rfl, .inl ⟨_, hcall, h⟩⟩
  | failed hcall h => exact ⟨_, _, rfl, .inr ⟨_, hcall, h⟩⟩

/-- A sequence ends with its first part, or goes on with the second where the first has ended. -/
theorem of_bind {hook : Hook α} {next : α → Hook β} {result : Except HookError β}
    (h : (hook >>= next).Proceeds world w made result w') :
    (∃ e, result = .error e ∧ hook.Proceeds world w made (.error e) w') ∨
      ∃ a before rest w1, made = before ++ rest ∧ hook.Proceeds world w before (.ok a) w1 ∧
        (next a).Proceeds world w1 rest result w' := by
  induction hook using Program.rec generalizing w made with
  | done ended =>
    cases ended with
    | error e =>
      obtain ⟨rfl, rfl, rfl⟩ := of_throw h
      exact .inl ⟨e, rfl, .done _ _⟩
    | ok a => exact .inr ⟨a, [], made, w, rfl, .done _ _, h⟩
  | ask r rest ih =>
    change Proceeds world (Program.ask r fun answer => bind (m := Hook) (rest answer) next) w made
      result w' at h
    cases h with
    | note hr h =>
      rcases ih _ h with ⟨e, rfl, hfirst⟩ | ⟨a, before, after, w1, rfl, hfirst, hsecond⟩
      · exact .inl ⟨e, rfl, .note hr hfirst⟩
      · exact .inr ⟨a, before, after, w1, rfl, .note hr hfirst, hsecond⟩
    | returned hcall h =>
      rcases ih _ h with ⟨e, rfl, hfirst⟩ | ⟨a, before, after, w1, rfl, hfirst, hsecond⟩
      · exact .inl ⟨e, rfl, .returned hcall hfirst⟩
      · exact .inr ⟨a, _ :: before, after, w1, rfl, .returned hcall hfirst, hsecond⟩
    | failed hcall h =>
      rcases ih _ h with ⟨e, rfl, hfirst⟩ | ⟨a, before, after, w1, rfl, hfirst, hsecond⟩
      · exact .inl ⟨e, rfl, .failed hcall hfirst⟩
      · exact .inr ⟨a, _ :: before, after, w1, rfl, .failed hcall hfirst, hsecond⟩

/-! ## Calls of a site -/

variable {site : Site}

theorem of_service {c : ServiceCall} {result : Except HookError c.Answer}
    (h : (site.service c).Proceeds world w made result w') :
    made = [(.service c, w)] ∧
      ((∃ a, world (.service c) w = (⟨.returns a, false⟩, w') ∧ result = .ok a) ∨
      ∃ error, world (.service c) w = (⟨.fails error, false⟩, w') ∧
        result = .error (site.error (.retryable error))) := by
  obtain ⟨rest, w1, rfl, ⟨a, hcall, h⟩ | ⟨error, hcall, h⟩⟩ := of_call h
  · cases h with
    | note _ h =>
      obtain ⟨rfl, rfl, rfl⟩ := of_pure h
      exact ⟨rfl, .inl ⟨a, hcall, rfl⟩⟩
  · cases h with
    | note _ h =>
      obtain ⟨rfl, rfl, rfl⟩ := of_throw h
      exact ⟨rfl, .inr ⟨error, hcall, rfl⟩⟩

theorem of_write {ns name key value : String} {result : Except HookError Unit}
    (h : (site.write ns name key value).Proceeds world w made result w') :
    made = [(.secret (.write ns name key value), w)] ∧
      ((world (.secret (.write ns name key value)) w = (⟨.returns (), false⟩, w') ∧
        result = .ok ()) ∨
      ∃ error, world (.secret (.write ns name key value)) w = (⟨.fails error, false⟩, w') ∧
        result = .error (site.error (.retryable error))) := by
  obtain ⟨rest, w1, rfl, ⟨a, hcall, h⟩ | ⟨error, hcall, h⟩⟩ := of_call h
  · obtain ⟨rfl, rfl, rfl⟩ := of_pure h
    exact ⟨rfl, .inl ⟨hcall, rfl⟩⟩
  · obtain ⟨rfl, rfl, rfl⟩ := of_throw h
    exact ⟨rfl, .inr ⟨error, hcall, rfl⟩⟩

theorem of_resolve {ns field : String} {ref : SecretRef} {result : Except HookError String}
    (h : (site.resolve ns field ref).Proceeds world w made result w') :
    made = [(.secret (.resolve ns ref), w)] ∧
      ((∃ value, world (.secret (.resolve ns ref)) w = (⟨.returns value, false⟩, w') ∧
        result = .ok value) ∨
      ∃ error, world (.secret (.resolve ns ref)) w = (⟨.fails error, false⟩, w') ∧
        result = .error (site.error (.terminal (.unresolvedSecret field ref.toText)))) := by
  obtain ⟨rest, w1, rfl, ⟨value, hcall, h⟩ | ⟨error, hcall, h⟩⟩ := of_call h
  · obtain ⟨rfl, rfl, rfl⟩ := of_pure h
    exact ⟨rfl, .inl ⟨value, hcall, rfl⟩⟩
  · cases h with
    | note _ h =>
      obtain ⟨rfl, rfl, rfl⟩ := of_throw h
      exact ⟨rfl, .inr ⟨error, hcall, rfl⟩⟩

end Proceeds

end Hook

/-! ## Runs of a session -/

namespace Session

theorem handle_cancelled (world : Collaborators σ) (r : Effect) {s : Session σ}
    (h : s.cancelled = true) : (handle world r s).2.cancelled = true := by
  cases r with
  | call c =>
    change (call world c s).2.cancelled = true
    rw [call_of_cancelled h]
    exact h
  | record entry => exact h
  | log event => exact h
  | wait seconds => exact h

theorem cancelled_of_cancelled (world : Collaborators σ) (hook : Hook α) {s : Session σ}
    (h : s.cancelled = true) : (run world hook s).2.cancelled = true := by
  induction hook using Program.rec generalizing s with
  | done result => exact h
  | ask r next ih => exact ih _ (handle_cancelled world r h)

theorem not_cancelled_of_run {hook : Hook α} {s : Session σ}
    (h : (run world hook s).2.cancelled = false) : s.cancelled = false := by
  cases hs : s.cancelled with
  | false => rfl
  | true => rw [cancelled_of_cancelled world hook hs] at h; cases h

theorem not_cancelled_of_call {c : Call} {s : Session σ}
    (h : (call world c s).2.cancelled = false) : s.cancelled = false := by
  cases hs : s.cancelled with
  | false => rfl
  | true => rw [call_of_cancelled hs, hs] at h; cases h

theorem proceeds_call {c : Call} {next : Outcome c.Answer → Hook α}
    (ih : ∀ outcome {s : Session σ}, (run world (next outcome) s).2.cancelled = false →
      (next outcome).Proceeds world s.world (trace world (next outcome) s)
        (run world (next outcome) s).1 (run world (next outcome) s).2.world)
    {s : Session σ} (h : (run world (Program.ask (.call c) next : Hook α) s).2.cancelled = false) :
    Hook.Proceeds world (Program.ask (.call c) next) s.world
      (trace world (Program.ask (.call c) next) s)
      (run world (Program.ask (.call c) next : Hook α) s).1
      (run world (Program.ask (.call c) next : Hook α) s).2.world := by
  rw [run_ask_call] at h ⊢
  have hcalled : (call world c s).2.cancelled = false := not_cancelled_of_run h
  have hs : s.cancelled = false := not_cancelled_of_call hcalled
  have hnext := ih _ h
  rw [trace_call hs]
  rw [call_of_not_cancelled hs] at hcalled hnext ⊢
  rcases hw : world c s.world with ⟨⟨ending, cancels⟩, after⟩
  cases ending with
  | returns a =>
    simp only [started, hw] at hcalled hnext ⊢
    subst hcalled
    exact .returned hw hnext
  | fails error =>
    simp only [started, hw] at hcalled hnext ⊢
    subst hcalled
    exact .failed hw hnext
  | hangs =>
    simp only [hw] at hcalled
    cases hcalled

theorem run_not_cancelled (hsteady : world.Steady) (hook : Hook α) {s : Session σ}
    (h : s.cancelled = false) : (run world hook s).2.cancelled = false := by
  induction hook using Program.rec generalizing s with
  | done result => exact h
  | ask r next ih =>
    refine ih _ ?_
    cases r with
    | call c =>
      obtain ⟨hcancels, hends⟩ := hsteady c s.world
      change (call world c s).2.cancelled = false
      rw [call_of_not_cancelled h]
      split
      · exact hcancels
      · exact hcancels
      · exact absurd ‹_› hends
    | record entry => exact h
    | log event => exact h
    | wait seconds => exact h

theorem proceeds_of_run (world : Collaborators σ) (hook : Hook α) {s : Session σ}
    (h : (run world hook s).2.cancelled = false) :
    hook.Proceeds world s.world (trace world hook s) (run world hook s).1
      (run world hook s).2.world := by
  induction hook using Program.rec generalizing s with
  | done result => exact .done result s.world
  | ask r next ih =>
    cases r with
    | call c => exact proceeds_call ih h
    | record entry => exact .note (fun _ h => nomatch h) (ih () h)
    | log event => exact .note (fun _ h => nomatch h) (ih () h)
    | wait seconds => exact .note (fun _ h => nomatch h) (ih () h)

end Session

end CertSync
