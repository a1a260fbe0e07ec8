import CertSync.Proofs.Session.Trace

/-!
# One call, however it goes

A call that is due is started unless the run was cancelled before, and what becomes of it is up to
the collaborators. What was noted down until then has no part in it.
-/

namespace CertSync

variable {σ : Type}

/-- What a session is in, apart from what it has noted down. -/
structure Moment (σ : Type) where
  world : σ
  cancelled : Bool := false

def Session.moment (s : Session σ) : Moment σ := ⟨s.world, s.cancelled⟩

/-- The call is due at one moment and leaves another. What was made of it is listed with the state
that it was made in. -/
inductive Call.Goes (world : Collaborators σ) (c : Call) :
    Moment σ → List (Call × σ) → Outcome c.Answer → Moment σ → Prop
  | unstarted {w : σ} : Goes world c ⟨w, true⟩ [] .stopped ⟨w, true⟩
  | returned {w w' : σ} {a : c.Answer} {cancels : Bool}
      (h : world c w = (⟨.returns a, cancels⟩, w')) :
      Goes world c ⟨w, false⟩ [(c, w)] (.completed a) ⟨w', cancels⟩
  | failed {w w' : σ} {error : ErrorChain} {cancels : Bool}
      (h : world c w = (⟨.fails error, cancels⟩, w')) :
      Goes world c ⟨w, false⟩ [(c, w)] (.failed error) ⟨w', cancels⟩
  | hung {w w' : σ} {cancels : Bool} (h : world c w = (⟨.hangs, cancels⟩, w')) :
      Goes world c ⟨w, false⟩ [(c, w)] .stopped ⟨w', true⟩

namespace Call.Goes

variable {world : Collaborators σ} {c : Call} {m m' : Moment σ} {made : List (Call × σ)}
  {outcome : Outcome c.Answer}

theorem calls_prefix (h : c.Goes world m made outcome m') : made.map Prod.fst <+: [c] := by
  cases h with
  | unstarted => exact List.nil_prefix
  | _ => exact List.prefix_rfl

theorem of_mem {c' : Call} (h : c.Goes world m made outcome m') (hmem : c' ∈ made.map Prod.fst) :
    c' = c ∧ m.cancelled = false ∧ made = [(c, m.world)] := by
  cases h with
  | unstarted => cases hmem
  | _ => exact ⟨List.mem_singleton.mp hmem, rfl, rfl⟩

theorem of_completed {a : c.Answer} (h : c.Goes world m made (.completed a) m') :
    made = [(c, m.world)] ∧ (world c m.world).1.ending = .returns a ∧
      m'.world = (world c m.world).2 := by
  cases h with
  | returned h => exact ⟨rfl, by rw [h], by rw [h]⟩

end Call.Goes

namespace Session

variable {world : Collaborators σ}

theorem Alike.moment {s t : Session σ} (h : Alike s t) : t.moment = s.moment := by
  simp only [Session.moment, h.world, h.cancelled]

theorem call_goes (world : Collaborators σ) (c : Call) (s : Session σ) :
    ∃ made, c.Goes world s.moment made (call world c s).1 (call world c s).2.moment ∧
      (call world c s).2.calls = s.calls ++ made.map Prod.fst := by
  obtain ⟨w, cancelled, calls, records, log, waited⟩ := s
  cases cancelled with
  | true => exact ⟨[], .unstarted, (List.append_nil _).symm⟩
  | false =>
    refine ⟨[(c, w)], ?_, call_calls rfl⟩
    rw [call_of_not_cancelled rfl]
    rcases hw : world c w with ⟨⟨ending, cancels⟩, w'⟩
    simp only [started, moment, hw]
    cases ending with
    | returns a => exact .returned hw
    | fails error => exact .failed hw
    | hangs => exact .hung hw

theorem service_goes {site : Hook.Site} {c : ServiceCall} {s t : Session σ}
    {result : Except HookError c.Answer} (hrun : run world (site.service c) s = (result, t)) :
    ∃ made outcome, (Call.service c).Goes world s.moment made outcome t.moment ∧
      t.calls = s.calls ++ made.map Prod.fst ∧
      result = match outcome with
        | .completed a => .ok a
        | .failed error => .error (site.error (.retryable error))
        | .stopped => .error (site.error .cancelled) := by
  obtain ⟨made, hgoes, hcalls⟩ := call_goes world (.service c) s
  rw [run_service] at hrun
  rcases hcall : call world (.service c) s with ⟨outcome, u⟩
  rw [hcall] at hgoes hcalls hrun
  refine ⟨made, outcome, ?_, ?_, ?_⟩ <;> cases outcome <;> cases hrun
  all_goals first | exact hgoes | exact hcalls | rfl

theorem resolve_goes {site : Hook.Site} {ns field : String} {ref : SecretRef} {s t : Session σ}
    {result : Except HookError String}
    (hrun : run world (site.resolve ns field ref) s = (result, t)) :
    ∃ made outcome, (Call.secret (.resolve ns ref)).Goes world s.moment made outcome t.moment ∧
      t.calls = s.calls ++ made.map Prod.fst ∧
      result = match outcome with
        | .completed text => .ok text
        | .failed _ => .error (site.error (.terminal (.unresolvedSecret field ref.toText)))
        | .stopped => .error (site.error .cancelled) := by
  obtain ⟨made, hgoes, hcalls⟩ := call_goes world (.secret (.resolve ns ref)) s
  rw [run_resolve] at hrun
  rcases hcall : call world (.secret (.resolve ns ref)) s with ⟨outcome, u⟩
  rw [hcall] at hgoes hcalls hrun
  refine ⟨made, outcome, ?_, ?_, ?_⟩ <;> cases outcome <;> cases hrun
  all_goals first | exact hgoes | exact hcalls | rfl

end Session

end CertSync
