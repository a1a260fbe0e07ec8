import CertSync.Proofs.Session.Trace
import Mathlib.Data.List.Forall2

/-!
# Two runs side by side

Two runs are set beside each other whose calls are alike and which get answers that are alike, such
as answers that differ in a secret only. If what a hook does next never depends on how such answers
differ, both runs leave the same log and the same records and end in the same way.
-/

namespace CertSync

variable {σ τ α β γ δ : Type}

/-- Which calls of the two runs are alike, and which answers to two calls are. -/
structure Likeness where
  call : Call → Call → Prop
  answer : (c d : Call) → c.Answer → d.Answer → Prop

/-- A call ends alike in both runs if it fails alike, with the same error. -/
inductive Ending.Like (answer : α → β → Prop) : Ending α → Ending β → Prop
  | returns {a : α} {b : β} (h : answer a b) : Like answer (.returns a) (.returns b)
  | fails (error : ErrorChain) : Like answer (.fails error) (.fails error)
  | hangs : Like answer .hangs .hangs

structure Reaction.Like (answer : α → β → Prop) (r : Reaction α) (r' : Reaction β) : Prop where
  ending : r.ending.Like answer r'.ending
  cancels : r'.cancels = r.cancels

/-- What the two runs see of a call that ended alike in both. -/
inductive Outcome.Like (answer : α → β → Prop) : Outcome α → Outcome β → Prop
  | completed {a : α} {b : β} (h : answer a b) : Like answer (.completed a) (.completed b)
  | failed (error : ErrorChain) : Like answer (.failed error) (.failed error)
  | stopped : Like answer .stopped .stopped

/-- Two calls that are alike are met alike. -/
def Likeness.Meets (like : Likeness) (world : Collaborators σ) (world' : Collaborators τ)
    (step : (Call × σ) × (Call × τ)) : Prop :=
  like.call step.1.1 step.2.1 →
    (world step.1.1 step.1.2).1.Like (like.answer step.1.1 step.2.1) (world' step.2.1 step.2.2).1

/-! ## Hooks that do alike -/

/-- The hooks do the same as long as they get answers that are alike, except that their calls are
no more than alike. The values that they end with are related by `value`. -/
inductive Hook.Mirrors (like : Likeness) (value : α → β → Prop) : Hook α → Hook β → Prop
  | ok {a : α} {b : β} (h : value a b) : Mirrors like value (Program.done (.ok a))
      (Program.done (.ok b))
  | error (e : HookError) : Mirrors like value (Program.done (.error e)) (Program.done (.error e))
  | note {r : Effect} {next : r.Answer → Hook α} {next' : r.Answer → Hook β}
      (hr : ∀ c, r ≠ .call c) (h : ∀ a, Mirrors like value (next a) (next' a)) :
      Mirrors like value (Program.ask r next) (Program.ask r next')
  | call {c d : Call} {next : Outcome c.Answer → Hook α} {next' : Outcome d.Answer → Hook β}
      (hcall : like.call c d)
      (h : ∀ o o', o.Like (like.answer c d) o' → Mirrors like value (next o) (next' o')) :
      Mirrors like value (Program.ask (.call c) next) (Program.ask (.call d) next')

namespace Hook.Mirrors

variable {like : Likeness} {value : α → β → Prop} {value' : γ → δ → Prop}

theorem pure {a : α} {b : β} (h : value a b) :
    Mirrors like value (Pure.pure a) (Pure.pure b) := .ok h

theorem throw (e : HookError) :
    Mirrors like value (MonadExcept.throw e : Hook α) (MonadExcept.throw e : Hook β) := .error e

theorem log (event : LogEvent) :
    Mirrors like (fun _ _ => True) (Hook.log event) (Hook.log event) :=
  .note (fun _ h => nomatch h) fun _ => .ok trivial

theorem wait (seconds : Nat) :
    Mirrors like (fun _ _ => True) (Hook.wait seconds) (Hook.wait seconds) :=
  .note (fun _ h => nomatch h) fun _ => .ok trivial

theorem bind {hook : Hook α} {hook' : Hook β} {next : α → Hook γ} {next' : β → Hook δ}
    (h : Mirrors like value hook hook')
    (hnext : ∀ a b, value a b → Mirrors like value' (next a) (next' b)) :
    Mirrors like value' (hook >>= next) (hook' >>= next') := by
  induction h with
  | ok h => exact hnext _ _ h
  | error e => exact .error e
  | note hr _ ih => exact .note hr ih
  | call hcall _ ih => exact .call hcall ih

/-! ## Calls of a site -/

theorem resolve_of_toText (site : Site) (ns field : String) {ref other : SecretRef}
    (htext : other.toText = ref.toText)
    (h : like.call (.secret (.resolve ns ref)) (.secret (.resolve ns other))) :
    Mirrors like (like.answer (.secret (.resolve ns ref)) (.secret (.resolve ns other)))
      (site.resolve ns field ref) (site.resolve ns field other) := by
  let refuse (text : String) (error : ErrorChain) : Hook String := do
    Hook.warn s!"Failed to resolve {field} secret reference {text} for {site.resource}: {error.toText}"
    site.terminal (.unresolvedSecret field text)
  refine .call h fun o o' ho => ?_
  cases ho with
  | completed hanswer => exact .ok hanswer
  | failed error =>
    change Mirrors like _ (refuse ref.toText error) (refuse other.toText error)
    rw [htext]
    exact .note (fun _ h => nomatch h) fun _ => .error _
  | stopped => exact .error _

theorem resolve (site : Site) (ns field : String) (ref : SecretRef)
    (h : like.call (.secret (.resolve ns ref)) (.secret (.resolve ns ref))) :
    Mirrors like (like.answer (.secret (.resolve ns ref)) (.secret (.resolve ns ref)))
      (site.resolve ns field ref) (site.resolve ns field ref) :=
  resolve_of_toText site ns field rfl h

theorem write (site : Site) (ns name key : String) {text text' : String}
    (h : like.call (.secret (.write ns name key text)) (.secret (.write ns name key text'))) :
    Mirrors like (fun _ _ => True) (site.write ns name key text)
      (site.write ns name key text') := by
  refine .call h fun o o' ho => ?_
  cases ho with
  | completed => exact .ok trivial
  | failed error => exact .error _
  | stopped => exact .error _

theorem service (site : Site) (c d : ServiceCall) (htype : c.type = d.type) (hname : c.name = d.name)
    (h : like.call (.service c) (.service d)) :
    Mirrors like (like.answer (.service c) (.service d)) (site.service c) (site.service d) := by
  have hrecord : ∀ (error : Option ErrorChain) (hook : Hook c.Answer) (hook' : Hook d.Answer),
      Mirrors like (like.answer (.service c) (.service d)) hook hook' →
      Mirrors like (like.answer (.service c) (.service d))
        (Hook.record ⟨c.type, c.name, error⟩ >>= fun _ => hook)
        (Hook.record ⟨d.type, d.name, error⟩ >>= fun _ => hook') := by
    intro error hook hook' hhook
    rw [htype, hname]
    exact .note (fun _ h => nomatch h) fun _ => hhook
  refine .call h fun o o' ho => ?_
  cases ho with
  | completed hanswer => exact hrecord none _ _ (.ok hanswer)
  | failed error => exact hrecord (some error) _ _ (.error _)
  | stopped =>
    change Mirrors like _ (Hook.record ⟨c.type, c.name, some ⟨s!"{c.name} cancelled", []⟩⟩ >>= _)
      (Hook.record ⟨d.type, d.name, some ⟨s!"{d.name} cancelled", []⟩⟩ >>= _)
    rw [← hname]
    exact hname ▸ hrecord _ _ _ (.error _)

end Hook.Mirrors

/-! ## Their runs -/

namespace Session

/-- Nobody who reads what the sessions noted down can tell them apart. -/
structure Twins (like : Likeness) (s : Session σ) (t : Session τ) : Prop where
  cancelled : t.cancelled = s.cancelled
  calls : List.Forall₂ like.call s.calls t.calls
  records : t.records = s.records
  log : t.log = s.log
  waited : t.waited = s.waited

variable {like : Likeness} {world : Collaborators σ} {world' : Collaborators τ} {s : Session σ}
  {t : Session τ}

theorem Twins.note (h : Twins like s t) {r : Effect} (hr : ∀ c, r ≠ .call c) :
    Twins like (handle world r s).2 (handle world' r t).2 := by
  cases r with
  | call c => exact absurd rfl (hr c)
  | record entry =>
    exact ⟨h.cancelled, h.calls, congrArg (· ++ [entry]) h.records, h.log, h.waited⟩
  | log event => exact ⟨h.cancelled, h.calls, h.records, congrArg (· ++ [event]) h.log, h.waited⟩
  | wait seconds => exact ⟨h.cancelled, h.calls, h.records, h.log, congrArg (· + seconds) h.waited⟩

theorem Twins.started (h : Twins like s t) {c d : Call} (hcall : like.call c d)
    (hcancels : (world' d t.world).1.cancels = (world c s.world).1.cancels) :
    Twins like (s.started world c) (t.started world' d) where
  cancelled := hcancels
  calls := List.rel_append h.calls (.cons hcall .nil)
  records := h.records
  log := h.log
  waited := h.waited

theorem Twins.call (h : Twins like s t) {c d : Call} (hcall : like.call c d)
    (hmeets : s.cancelled = false →
      (world c s.world).1.Like (like.answer c d) (world' d t.world).1) :
    (Session.call world c s).1.Like (like.answer c d) (Session.call world' d t).1 ∧
      Twins like (Session.call world c s).2 (Session.call world' d t).2 := by
  cases hs : s.cancelled with
  | true =>
    rw [call_of_cancelled hs, call_of_cancelled (h.cancelled.trans hs)]
    exact ⟨.stopped, h⟩
  | false =>
    have ht := h.cancelled.trans hs
    obtain ⟨hending, hcancels⟩ := hmeets hs
    have hstarted := h.started hcall hcancels
    generalize hleft : (world c s.world).1.ending = left at hending
    generalize hright : (world' d t.world).1.ending = right at hending
    cases hending with
    | returns hanswer =>
      rw [call_of_returns hs hleft, call_of_returns ht hright]
      exact ⟨.completed hanswer, hstarted⟩
    | fails error =>
      rw [call_of_fails hs hleft, call_of_fails ht hright]
      exact ⟨.failed error, hstarted⟩
    | hangs =>
      rw [call_of_hangs hs hleft, call_of_hangs ht hright]
      exact ⟨.stopped, { hstarted with cancelled := rfl }⟩

theorem zip_trace_call (hsame : t.cancelled = s.cancelled) {c d : Call}
    (next : Outcome c.Answer → Hook α) (next' : Outcome d.Answer → Hook β) :
    ∀ step ∈ (trace world (next (call world c s).1) (call world c s).2).zip
        (trace world' (next' (call world' d t).1) (call world' d t).2),
      step ∈ (trace world (Program.ask (.call c) next) s).zip
        (trace world' (Program.ask (.call d) next') t) := by
  intro step hstep
  cases hs : s.cancelled with
  | true =>
    have ht := hsame.trans hs
    rw [call_of_cancelled hs, call_of_cancelled ht] at hstep
    rwa [trace_stopped hs, trace_stopped ht]
  | false =>
    rw [trace_call hs, trace_call (hsame.trans hs), List.zip_cons_cons]
    exact List.mem_cons_of_mem _ hstep

/-- Two runs end in the same error, or with values that are related. -/
inductive EndLike (value : α → β → Prop) : Except HookError α → Except HookError β → Prop
  | ok {a : α} {b : β} (h : value a b) : EndLike value (.ok a) (.ok b)
  | error (e : HookError) : EndLike value (.error e) (.error e)

theorem EndLike.eq {result result' : Except HookError α} (h : EndLike Eq result result') :
    result' = result := by
  cases h with
  | ok h => rw [h]
  | error e => rfl

/-- Runs that are met alike, call by call, differ no more than the hooks do. -/
theorem run_like {value : α → β → Prop} {hook : Hook α} {hook' : Hook β}
    (h : hook.Mirrors like value hook') (hst : Twins like s t)
    (hmeets : ∀ step ∈ (trace world hook s).zip (trace world' hook' t),
      like.Meets world world' step) :
    EndLike value (run world hook s).1 (run world' hook' t).1 ∧
      Twins like (run world hook s).2 (run world' hook' t).2 := by
  induction h generalizing s t with
  | ok h => exact ⟨.ok h, hst⟩
  | error e => exact ⟨.error e, hst⟩
  | @note r next next' hr _ ih =>
    have a := (handle world r s).1
    rw [run_note hr _ a, run_note hr _ a]
    rw [trace_note hr _ a, trace_note hr _ a] at hmeets
    exact ih a (hst.note hr) hmeets
  | @call c d next next' hcall _ ih =>
    have hstep : s.cancelled = false →
        (world c s.world).1.Like (like.answer c d) (world' d t.world).1 := by
      intro hs
      rw [trace_call hs, trace_call (hst.cancelled.trans hs), List.zip_cons_cons] at hmeets
      exact hmeets _ List.mem_cons_self hcall
    obtain ⟨houtcome, htwins⟩ := hst.call hcall hstep
    rw [run_ask_call, run_ask_call]
    exact ih _ _ houtcome htwins fun step hin =>
      hmeets step (zip_trace_call hst.cancelled next next' step hin)

theorem run_mirrors {hook hook' : Hook α} (h : hook.Mirrors like Eq hook') (hst : Twins like s t)
    (hmeets : ∀ step ∈ (trace world hook s).zip (trace world' hook' t),
      like.Meets world world' step) :
    (run world' hook' t).1 = (run world hook s).1 ∧
      Twins like (run world hook s).2 (run world' hook' t).2 := by
  obtain ⟨hend, htwins⟩ := run_like h hst hmeets
  exact ⟨hend.eq, htwins⟩

/-! ## Collaborators that behave alike -/

/-- From states that are related, calls that are alike go alike and leave states that are. -/
def BehaveAlike (like : Likeness) (related : σ → τ → Prop) (world : Collaborators σ)
    (world' : Collaborators τ) : Prop :=
  ∀ c d w w', like.call c d → related w w' →
    (world c w).1.Like (like.answer c d) (world' d w').1 ∧ related (world c w).2 (world' d w').2

theorem meets_of_behaveAlike {related : σ → τ → Prop}
    (hbehave : BehaveAlike like related world world') {value : α → β → Prop} {hook : Hook α}
    {hook' : Hook β} (h : hook.Mirrors like value hook') (hst : Twins like s t)
    (hrelated : related s.world t.world) :
    ∀ step ∈ (trace world hook s).zip (trace world' hook' t), like.Meets world world' step := by
  induction h generalizing s t with
  | ok h => nofun
  | error e => nofun
  | @note r next next' hr _ ih =>
    have a := (handle world r s).1
    rw [trace_note hr _ a, trace_note hr _ a]
    refine ih a (hst.note hr) ?_
    rwa [(handle_note world hr s).world, (handle_note world' hr t).world]
  | @call c d next next' hcall _ ih =>
    obtain ⟨hlike, hafter⟩ := hbehave c d s.world t.world hcall hrelated
    obtain ⟨houtcome, htwins⟩ := hst.call hcall fun _ => hlike
    cases hs : s.cancelled with
    | true =>
      have ht := hst.cancelled.trans hs
      rw [call_of_cancelled hs, call_of_cancelled ht] at houtcome htwins
      rw [trace_stopped hs, trace_stopped ht]
      exact ih _ _ houtcome htwins hrelated
    | false =>
      have ht := hst.cancelled.trans hs
      rw [trace_call hs, trace_call ht, List.zip_cons_cons]
      intro step hstep
      rcases List.mem_cons.mp hstep with rfl | hstep
      · exact fun _ => hlike
      · refine ih _ _ houtcome htwins ?_ step hstep
        rwa [call_world_of_not_cancelled hs, call_world_of_not_cancelled ht]

end Session

end CertSync
