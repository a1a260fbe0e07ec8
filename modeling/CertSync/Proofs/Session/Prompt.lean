import CertSync.Proofs.Session.Run

/-!
# Hooks that end where a call does not complete

Nothing is called after a call that failed or was stopped, and which error a hook then ends in is
settled by that call. What is true of the parts of a hook is true of the whole, so a hook is read
once, and what follows for its runs is proved for all of them together.
-/

namespace CertSync

variable {σ τ α β : Type}

/-- How a call that failed counts. A reference that could not be resolved is a matter for the user,
who is told the field that has it. -/
def Call.failure (field : String) : Call → ErrorChain → HookError.Cause
  | .secret (.resolve _ ref), _ => .terminal (.unresolvedSecret field ref.toText)
  | _, error => .retryable error

theorem Call.failure_ne_cancelled (field : String) (c : Call) (error : ErrorChain) :
    c.failure field error ≠ .cancelled := by
  rcases c with (_ | _) | _ <;> exact fun h => nomatch h

/-- An error of a site. -/
def Hook.Site.error (site : Hook.Site) (cause : HookError.Cause) : HookError :=
  ⟨site.operation, site.resource, cause⟩

namespace Hook

/-- The hook ends in this error and calls nobody before it does. -/
inductive Ends (e : HookError) : Hook α → Prop
  | throw : Ends e (Program.done (.error e))
  | note {r : Effect} {next : r.Answer → Hook α} (hr : ∀ c, r ≠ .call c)
      (h : ∀ a, Ends e (next a)) : Ends e (Program.ask r next)

/-- The hook ends at the first call that does not complete. -/
inductive Prompt : Hook α → Prop
  | done (result : Except HookError α) : Prompt (Program.done result)
  | note {r : Effect} {next : r.Answer → Hook α} (hr : ∀ c, r ≠ .call c)
      (h : ∀ a, Prompt (next a)) : Prompt (Program.ask r next)
  | call {c : Call} {next : Outcome c.Answer → Hook α} (site : Site) (field : String)
      (completed : ∀ a, Prompt (next (.completed a)))
      (failed : ∀ error, Ends (site.error (c.failure field error)) (next (.failed error)))
      (stopped : Ends (site.error .cancelled) (next .stopped)) : Prompt (Program.ask (.call c) next)

theorem Ends.prompt {e : HookError} {hook : Hook α} (h : hook.Ends e) : hook.Prompt := by
  induction h with
  | throw => exact .done _
  | note hr _ ih => exact .note hr ih

theorem Prompt.next {c : Call} {next : Outcome c.Answer → Hook α}
    (h : Prompt (Program.ask (.call c) next)) (outcome : Outcome c.Answer) :
    (next outcome).Prompt := by
  cases h with
  | note hr _ => exact absurd rfl (hr c)
  | call site field completed failed stopped =>
    cases outcome with
    | completed a => exact completed a
    | failed error => exact (failed error).prompt
    | stopped => exact stopped.prompt

/-! ## Sequences -/

theorem Ends.bind {e : HookError} {hook : Hook α} (h : Ends e hook) (next : α → Hook β) :
    Ends e (hook >>= next) := by
  induction h with
  | throw => exact .throw
  | note hr _ ih => exact .note hr ih

namespace Prompt

theorem pure (a : α) : Prompt (Pure.pure a : Hook α) := .done _

theorem throw (e : HookError) : Prompt (MonadExcept.throw e : Hook α) := .done _

theorem log (event : LogEvent) : Prompt (Hook.log event) :=
  .note (fun _ h => nomatch h) fun _ => .done _

theorem wait (seconds : Nat) : Prompt (Hook.wait seconds) :=
  .note (fun _ h => nomatch h) fun _ => .done _

theorem bind {hook : Hook α} {next : α → Hook β} (h : Prompt hook) (hnext : ∀ a, Prompt (next a)) :
    Prompt (hook >>= next) := by
  induction h with
  | done result =>
    cases result with
    | error e => exact .done _
    | ok a => exact hnext a
  | note hr _ ih => exact .note hr ih
  | call site field _ failed stopped ih =>
    exact .call site field ih (fun error => (failed error).bind next) (stopped.bind next)

/-! ## Calls of a site -/

theorem service (site : Site) (c : ServiceCall) : Prompt (site.service c) :=
  .call site "" (fun _ => .note (fun _ h => nomatch h) fun _ => .done _)
    (fun _ => .note (fun _ h => nomatch h) fun _ => .throw)
    (.note (fun _ h => nomatch h) fun _ => .throw)

theorem write (site : Site) (ns name key value : String) : Prompt (site.write ns name key value) :=
  .call site "" (fun _ => .done _) (fun _ => .throw) .throw

theorem resolve (site : Site) (ns field : String) (ref : SecretRef) :
    Prompt (site.resolve ns field ref) :=
  .call site field (fun _ => .done _) (fun _ => .note (fun _ h => nomatch h) fun _ => .throw) .throw

end Prompt

end Hook

end CertSync
