import CertSync.Proofs.Session.Prompt

/-!
# Hooks put together from parts

A hook is a sequence of log events, waits and calls of its site, up to an error. It is taken apart
once; whatever holds of the parts and is kept by sequences then holds of the hook.
-/

namespace CertSync.Hook

inductive Composed : {α : Type} → Hook α → Prop
  | pure {α : Type} (a : α) : Composed (Pure.pure a)
  | throw {α : Type} (e : HookError) : Composed (MonadExcept.throw e : Hook α)
  | log (event : LogEvent) : Composed (Hook.log event)
  | wait (seconds : Nat) : Composed (Hook.wait seconds)
  | service (site : Site) (c : ServiceCall) : Composed (site.service c)
  | write (site : Site) (ns name key value : String) : Composed (site.write ns name key value)
  | resolve (site : Site) (ns field : String) (ref : SecretRef) :
      Composed (site.resolve ns field ref)
  | bind {α β : Type} {hook : Hook α} {next : α → Hook β} (h : Composed hook)
      (hnext : ∀ a, Composed (next a)) : Composed (hook >>= next)

namespace Composed

variable {α β : Type}

theorem discard {hook : Hook α} (h : Composed hook) : Composed (Functor.discard hook) := by
  rw [show Functor.discard hook = hook >>= fun _ => Pure.pure PUnit.unit from
    map_eq_pure_bind _ hook]
  exact h.bind fun _ => pure _

theorem forM {keys : List β} {each : β → Hook PUnit} (h : ∀ key, Composed (each key)) :
    Composed (keys.forM each) := by
  induction keys with
  | nil => exact pure _
  | cons key rest ih => exact bind (h key) fun _ => ih

theorem prompt {hook : Hook α} (h : Composed hook) : hook.Prompt := by
  induction h with
  | pure a => exact .pure a
  | throw e => exact .throw e
  | log event => exact .log event
  | wait seconds => exact .wait seconds
  | service site c => exact .service site c
  | write site ns name key value => exact .write site ns name key value
  | resolve site ns field ref => exact .resolve site ns field ref
  | bind _ _ ih ihnext => exact ih.bind ihnext

end Composed

end CertSync.Hook
