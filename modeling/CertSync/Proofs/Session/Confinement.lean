import CertSync.Proofs.Session.Mirror
import CertSync.Proofs.Session.Proceed

/-!
# What a hook can do at all

Whatever a hook is answered, it makes only calls of some kind and ends only in errors of some kind.
Both are read off its parts, and hold of each of its runs.
-/

namespace CertSync

variable {σ α β : Type}

namespace Hook

/-- All calls that the hook may make are such calls, and all errors that it may end in are such
errors. -/
inductive Confined (calls : Call → Prop) (errors : HookError → Prop) : Hook α → Prop
  | ok (a : α) : Confined calls errors (Program.done (.ok a))
  | error {e : HookError} (h : errors e) : Confined calls errors (Program.done (.error e))
  | note {r : Effect} {next : r.Answer → Hook α} (hr : ∀ c, r ≠ .call c)
      (h : ∀ a, Confined calls errors (next a)) : Confined calls errors (Program.ask r next)
  | call {c : Call} {next : Outcome c.Answer → Hook α} (hcall : calls c)
      (h : ∀ outcome, Confined calls errors (next outcome)) :
      Confined calls errors (Program.ask (.call c) next)

namespace Confined

variable {calls : Call → Prop} {errors : HookError → Prop} {hook : Hook α}

theorem pure (a : α) : Confined calls errors (Pure.pure a : Hook α) := .ok a

theorem throw {e : HookError} (h : errors e) :
    Confined calls errors (MonadExcept.throw e : Hook α) := .error h

theorem log (event : LogEvent) : Confined calls errors (Hook.log event) :=
  .note (fun _ h => nomatch h) fun _ => .ok _

theorem wait (seconds : Nat) : Confined calls errors (Hook.wait seconds) :=
  .note (fun _ h => nomatch h) fun _ => .ok _

theorem mono {calls' : Call → Prop} {errors' : HookError → Prop} (h : Confined calls errors hook)
    (hcalls : ∀ c, calls c → calls' c) (herrors : ∀ e, errors e → errors' e) :
    Confined calls' errors' hook := by
  induction h with
  | ok a => exact .ok a
  | error h => exact .error (herrors _ h)
  | note hr _ ih => exact .note hr ih
  | call hcall _ ih => exact .call (hcalls _ hcall) ih

/-! ## Sequences -/

theorem bind {next : α → Hook β} (h : Confined calls errors hook)
    (hnext : ∀ a, Confined calls errors (next a)) : Confined calls errors (hook >>= next) := by
  induction h with
  | ok a => exact hnext a
  | error h => exact .error h
  | note hr _ ih => exact .note hr ih
  | call hcall _ ih => exact .call hcall ih

theorem discard (h : Confined calls errors hook) :
    Confined calls errors (Functor.discard hook) := by
  rw [show Functor.discard hook = hook >>= fun _ => Pure.pure PUnit.unit from
    map_eq_pure_bind _ hook]
  exact h.bind fun _ => pure _

theorem forM {keys : List β} {each : β → Hook PUnit} (h : ∀ key, Confined calls errors (each key)) :
    Confined calls errors (keys.forM each) := by
  induction keys with
  | nil => exact pure _
  | cons key rest ih => exact bind (h key) fun _ => ih

/-! ## Calls of a site -/

variable {site : Site}

theorem service {c : ServiceCall} (hcall : calls (.service c))
    (herrors : ∀ cause, errors (site.error cause)) : Confined calls errors (site.service c) := by
  refine .call hcall fun outcome => ?_
  cases outcome with
  | completed a => exact .note (fun _ h => nomatch h) fun _ => .ok a
  | failed error => exact .note (fun _ h => nomatch h) fun _ => .error (herrors _)
  | stopped => exact .note (fun _ h => nomatch h) fun _ => .error (herrors _)

theorem write {ns name key value : String} (hcall : calls (.secret (.write ns name key value)))
    (herrors : ∀ cause, errors (site.error cause)) :
    Confined calls errors (site.write ns name key value) := by
  refine .call hcall fun outcome => ?_
  cases outcome with
  | completed a => exact .ok _
  | failed error => exact .error (herrors _)
  | stopped => exact .error (herrors _)

theorem resolve {ns field : String} {ref : SecretRef} (hcall : calls (.secret (.resolve ns ref)))
    (herrors : ∀ cause, errors (site.error cause)) :
    Confined calls errors (site.resolve ns field ref) := by
  refine .call hcall fun outcome => ?_
  cases outcome with
  | completed value => exact .ok value
  | failed error => exact .note (fun _ h => nomatch h) fun _ => .error (herrors _)
  | stopped => exact .error (herrors _)

/-! ## Set beside itself -/

theorem mirrors {like : Likeness} (h : Confined calls errors hook)
    (hlike : ∀ c, calls c → like.call c c ∧ ∀ a b, like.answer c c a b → a = b) :
    Mirrors like Eq hook hook := by
  induction h with
  | ok a => exact .ok rfl
  | error _ => exact .error _
  | note hr _ ih => exact .note hr ih
  | call hcall _ ih =>
    obtain ⟨hself, hsame⟩ := hlike _ hcall
    refine .call hself fun o o' ho => ?_
    cases ho with
    | completed hanswer => exact hsame _ _ hanswer ▸ ih _
    | failed error => exact ih _
    | stopped => exact ih _

end Confined

end Hook

/-! ## Their runs -/

namespace Session

variable {calls : Call → Prop} {errors : HookError → Prop} {hook : Hook α}

theorem error_of_confined (world : Collaborators σ) (h : hook.Confined calls errors)
    {s t : Session σ} {e : HookError} (hrun : run world hook s = (.error e, t)) : errors e := by
  induction h generalizing s with
  | ok a => cases hrun
  | error h =>
    cases hrun
    exact h
  | @note r _ hr _ ih =>
    have a := (handle world r s).1
    rw [run_note hr _ a] at hrun
    exact ih a hrun
  | call _ _ ih =>
    rw [run_ask_call] at hrun
    exact ih _ hrun

theorem calls_of_confined (world : Collaborators σ) (h : hook.Confined calls errors)
    {s : Session σ} (hs : ∀ c ∈ s.calls, calls c) : ∀ c ∈ (run world hook s).2.calls, calls c := by
  induction h generalizing s with
  | ok a => exact hs
  | error _ => exact hs
  | @note r _ hr _ ih =>
    have a := (handle world r s).1
    rw [run_note hr _ a]
    exact ih a ((handle_note world hr s).calls ▸ hs)
  | @call c _ hcall _ ih =>
    rw [run_ask_call]
    refine ih _ ?_
    cases hcancelled : s.cancelled with
    | true => rwa [call_of_cancelled hcancelled]
    | false =>
      rw [call_calls hcancelled]
      intro made hmade
      rcases List.mem_append.mp hmade with hmade | hmade
      · exact hs made hmade
      · rwa [List.mem_singleton.mp hmade]

end Session

end CertSync
