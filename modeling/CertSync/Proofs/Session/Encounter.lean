import CertSync.Proofs.Session.Proceed

/-!
# What a hook ends in, by what its calls came to

How a run goes on is settled by how its calls went so far. So what a hook ends in is read off the
hook with the calls before it at hand, and holds of each of its runs.
-/

namespace CertSync

variable {σ α β : Type}

/-- A call that a run came to, and how it went. -/
structure Encounter where
  call : Call
  outcome : Outcome call.Answer

def Encounter.Completed (x : Encounter) : Prop := ∃ a, x.outcome = .completed a

/-- No call failed or was stopped. -/
def WentWell (made : List Encounter) : Prop := ∀ x ∈ made, x.Completed

theorem WentWell.nil : WentWell [] := nofun

theorem WentWell.append {made : List Encounter} (h : WentWell made) (c : Call) (a : c.Answer) :
    WentWell (made ++ [⟨c, .completed a⟩]) := by
  intro x hx
  rcases List.mem_append.mp hx with hx | hx
  · exact h x hx
  · obtain rfl := List.mem_singleton.mp hx
    exact ⟨a, rfl⟩

def Effect.encountered : (r : Effect) → r.Answer → List Encounter
  | .call c, outcome => [⟨c, outcome⟩]
  | .record _, _ => []
  | .log _, _ => []
  | .wait _, _ => []

namespace Session

variable {world : Collaborators σ}

/-- The calls that a run comes to, those included that it does not start any more. -/
def encounters (world : Collaborators σ) :
    Program Effect Effect.Answer (Except HookError α) → Session σ → List Encounter
  | .done _, _ => []
  | .ask r next, s =>
    r.encountered (handle world r s).1 ++
      encounters world (next (handle world r s).1) (handle world r s).2

theorem encounters_call (c : Call) (next : Outcome c.Answer → Hook α) (s : Session σ) :
    encounters world (Program.ask (.call c) next) s =
      ⟨c, (call world c s).1⟩ ::
        encounters world (next (call world c s).1) (call world c s).2 := rfl

theorem encounters_note {r : Effect} (hr : ∀ c, r ≠ .call c) (next : r.Answer → Hook α)
    (a : r.Answer) (s : Session σ) :
    encounters world (Program.ask r next) s = encounters world (next a) (handle world r s).2 := by
  cases r with
  | call c => exact absurd rfl (hr c)
  | record entry => rfl
  | log event => rfl
  | wait seconds => rfl

theorem call_stopped {c : Call} {s : Session σ} (h : (call world c s).1 = .stopped) :
    (call world c s).2.cancelled = true := by
  cases hs : s.cancelled with
  | true => rw [call_of_cancelled hs]; exact hs
  | false =>
    rw [call_of_not_cancelled hs] at h ⊢
    cases hending : (world c s.world).1.ending with
    | returns a => rw [hending] at h; cases h
    | fails error => rw [hending] at h; cases h
    | hangs => rfl

theorem cancelled_of_stopped (world : Collaborators σ) (hook : Hook α) {s : Session σ}
    {x : Encounter} (hx : x ∈ encounters world hook s) (h : x.outcome = .stopped) :
    (run world hook s).2.cancelled = true := by
  induction hook using Program.rec generalizing s with
  | done result => cases hx
  | ask r next ih =>
    rw [run_ask]
    rcases List.mem_append.mp hx with hx | hx
    · refine cancelled_of_cancelled world _ ?_
      cases r with
      | call c =>
        obtain rfl := List.mem_singleton.mp hx
        exact call_stopped h
      | record entry => cases hx
      | log event => cases hx
      | wait seconds => cases hx
    · exact ih _ hx

end Session

/-! ## What a hook ends in -/

namespace Hook

/-- Whatever is answered to it, the hook ends in a value or an error that goes with the calls that
it came to and with those in `past`, which were before it. -/
inductive Ensures (ok : α → List Encounter → Prop) (err : HookError → List Encounter → Prop) :
    List Encounter → Hook α → Prop
  | ok {past : List Encounter} {a : α} (h : ok a past) : Ensures ok err past (Program.done (.ok a))
  | error {past : List Encounter} {e : HookError} (h : err e past) :
      Ensures ok err past (Program.done (.error e))
  | note {past : List Encounter} {r : Effect} {next : r.Answer → Hook α} (hr : ∀ c, r ≠ .call c)
      (h : ∀ a, Ensures ok err past (next a)) : Ensures ok err past (Program.ask r next)
  | call {past : List Encounter} {c : Call} {next : Outcome c.Answer → Hook α}
      (h : ∀ outcome, Ensures ok err (past ++ [⟨c, outcome⟩]) (next outcome)) :
      Ensures ok err past (Program.ask (.call c) next)

namespace Ensures

variable {past : List Encounter} {ok : α → List Encounter → Prop}
  {err : HookError → List Encounter → Prop}

theorem pure {a : α} (h : ok a past) : Ensures ok err past (Pure.pure a) := .ok h

theorem throw {e : HookError} (h : err e past) : Ensures ok err past (MonadExcept.throw e) :=
  .error h

theorem log {event : LogEvent} {ok : Unit → List Encounter → Prop} (h : ok () past) :
    Ensures ok err past (Hook.log event) :=
  .note (fun _ h => nomatch h) fun _ => .ok h

theorem wait {seconds : Nat} {ok : Unit → List Encounter → Prop} (h : ok () past) :
    Ensures ok err past (Hook.wait seconds) :=
  .note (fun _ h => nomatch h) fun _ => .ok h

theorem bind {hook : Hook β} {next : β → Hook α}
    (h : Ensures (fun b past => Ensures ok err past (next b)) err past hook) :
    Ensures ok err past (hook >>= next) := by
  induction h with
  | ok h => exact h
  | error h => exact .error h
  | note hr _ ih => exact .note hr ih
  | call _ ih => exact .call ih

theorem mono {ok' : α → List Encounter → Prop} {hook : Hook α} (h : Ensures ok err past hook)
    (hok : ∀ a past, ok a past → ok' a past) : Ensures ok' err past hook := by
  induction h with
  | ok h => exact .ok (hok _ _ h)
  | error h => exact .error h
  | note hr _ ih => exact .note hr ih
  | call _ ih => exact .call ih

theorem discard {hook : Hook β} {ok : PUnit → List Encounter → Prop}
    (h : Ensures (fun _ past => ok PUnit.unit past) err past hook) :
    Ensures ok err past (Functor.discard hook) := by
  rw [show Functor.discard hook = hook >>= fun _ => Pure.pure PUnit.unit from
    map_eq_pure_bind _ hook]
  exact bind (h.mono fun _ _ => .pure)

theorem forM_log {keys : List β} {event : β → LogEvent} {ok : PUnit → List Encounter → Prop}
    (h : ok () past) : Ensures ok err past (keys.forM fun key => Hook.log (event key)) := by
  induction keys with
  | nil => exact .ok h
  | cons key rest ih => exact bind (log ih)

/-! ## Calls of a site -/

variable {site : Site}

theorem service {c : ServiceCall} {ok : c.Answer → List Encounter → Prop}
    (completed : ∀ a, ok a (past ++ [⟨.service c, .completed a⟩]))
    (failed : ∀ error, err (site.error (.retryable error)) (past ++ [⟨.service c, .failed error⟩]))
    (stopped : err (site.error .cancelled) (past ++ [⟨.service c, .stopped⟩])) :
    Ensures ok err past (site.service c) := by
  refine .call fun outcome => ?_
  cases outcome with
  | completed a => exact .note (fun _ h => nomatch h) fun _ => .ok (completed a)
  | failed error => exact .note (fun _ h => nomatch h) fun _ => .error (failed error)
  | stopped => exact .note (fun _ h => nomatch h) fun _ => .error stopped

theorem write {ns name key value : String} {ok : Unit → List Encounter → Prop}
    (completed : ok () (past ++ [⟨.secret (.write ns name key value), .completed ()⟩]))
    (failed : ∀ error, err (site.error (.retryable error))
      (past ++ [⟨.secret (.write ns name key value), .failed error⟩]))
    (stopped : err (site.error .cancelled)
      (past ++ [⟨.secret (.write ns name key value), .stopped⟩])) :
    Ensures ok err past (site.write ns name key value) := by
  refine .call fun outcome => ?_
  cases outcome with
  | completed a => exact .ok completed
  | failed error => exact .error (failed error)
  | stopped => exact .error stopped

theorem resolve {ns field : String} {ref : SecretRef} {ok : String → List Encounter → Prop}
    (completed : ∀ value : String,
      ok value (past ++ [⟨.secret (.resolve ns ref), .completed value⟩]))
    (failed : ∀ error, err (site.error (.terminal (.unresolvedSecret field ref.toText)))
      (past ++ [⟨.secret (.resolve ns ref), .failed error⟩]))
    (stopped : err (site.error .cancelled) (past ++ [⟨.secret (.resolve ns ref), .stopped⟩])) :
    Ensures ok err past (site.resolve ns field ref) := by
  refine .call fun outcome => ?_
  cases outcome with
  | completed value => exact .ok (completed value)
  | failed error => exact .note (fun _ h => nomatch h) fun _ => .error (failed error)
  | stopped => exact .error stopped

end Ensures

end Hook

/-! ## What its runs end in -/

namespace Session

variable {past : List Encounter} {ok : α → List Encounter → Prop}
  {err : HookError → List Encounter → Prop} {hook : Hook α}

theorem run_ensured (world : Collaborators σ) (h : hook.Ensures ok err past) (s : Session σ) :
    (∀ a, (run world hook s).1 = .ok a → ok a (past ++ encounters world hook s)) ∧
      ∀ e, (run world hook s).1 = .error e → err e (past ++ encounters world hook s) := by
  induction h generalizing s with
  | @ok past a h =>
    refine ⟨?_, nofun⟩
    rintro _ ⟨⟩
    exact (List.append_nil past).symm ▸ h
  | @error past e h =>
    refine ⟨nofun, ?_⟩
    rintro _ ⟨⟩
    exact (List.append_nil past).symm ▸ h
  | @note past r next hr _ ih =>
    have a := (handle world r s).1
    rw [run_note hr _ a, encounters_note hr _ a]
    exact ih a _
  | call _ ih =>
    rw [run_ask_call, encounters_call, List.append_cons]
    exact ih _ _

end Session

end CertSync
