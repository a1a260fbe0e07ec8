import CertSync.Hook.Session

/-!
# How a run unfolds

The run of a hook is the run of its parts, one after the other, up to the first error. The parts
that call a collaborator are given by how the call went.
-/

namespace CertSync

theorem Program.run_bind {R : Type} {Answer : R → Type} {α β : Type} {m : Type → Type} [Monad m]
    [LawfulMonad m] (handle : (r : R) → m (Answer r)) (p : Program R Answer α)
    (next : α → Program R Answer β) :
    (p.bind next).run handle = p.run handle >>= fun a => (next a).run handle := by
  induction p with
  | done a => simp [bind, run]
  | ask r rest ih => simp [bind, run, ih]

namespace Session

variable {σ α β : Type} {world : Collaborators σ}

/-! ## Sequences -/

@[simp] theorem run_pure (a : α) (s : Session σ) : run world (pure a) s = (.ok a, s) := rfl

@[simp] theorem run_throw (e : HookError) (s : Session σ) :
    run world (throw e : Hook α) s = (.error e, s) := rfl

theorem run_bind (hook : Hook α) (next : α → Hook β) (s : Session σ) :
    run world (hook >>= next) s =
      match run world hook s with
      | (.ok a, t) => run world (next a) t
      | (.error e, t) => (.error e, t) := by
  have h : run world (hook >>= next) s =
      (Program.run (handle world) hook >>= fun r =>
        Program.run (handle world) (ExceptT.bindCont next r)) s :=
    congrFun (Program.run_bind (handle world) hook (ExceptT.bindCont next)) s
  rw [h]
  change Program.run (handle world) (ExceptT.bindCont next (run world hook s).1)
    (run world hook s).2 = _
  rcases run world hook s with ⟨e | a, t⟩ <;> rfl

theorem run_bind_ok {hook : Hook α} {s t : Session σ} {a : α}
    (h : run world hook s = (.ok a, t)) (next : α → Hook β) :
    run world (hook >>= next) s = run world (next a) t := by
  rw [run_bind, h]

theorem run_bind_error {hook : Hook α} {s t : Session σ} {e : HookError}
    (h : run world hook s = (.error e, t)) (next : α → Hook β) :
    run world (hook >>= next) s = (.error e, t) := by
  rw [run_bind, h]

theorem bind_ok {hook : Hook α} {next : α → Hook β} {s u : Session σ} {b : β}
    (h : run world (hook >>= next) s = (.ok b, u)) :
    ∃ a t, run world hook s = (.ok a, t) ∧ run world (next a) t = (.ok b, u) := by
  rw [run_bind] at h
  rcases hr : run world hook s with ⟨e | a, t⟩
  · simp [hr] at h
  · exact ⟨a, t, rfl, by simpa [hr] using h⟩

theorem run_discard (hook : Hook α) (s : Session σ) :
    run world (discard hook) s =
      ((run world hook s).1.map fun _ => PUnit.unit, (run world hook s).2) := by
  rw [show discard hook = hook >>= fun _ => pure PUnit.unit from map_eq_pure_bind _ hook, run_bind]
  rcases run world hook s with ⟨e | a, t⟩ <;> rfl

theorem ok_of_toOption {hook : Hook α} {s : Session σ} {a : α}
    (h : (run world hook s).1.toOption = some a) :
    run world hook s = (.ok a, (run world hook s).2) := by
  revert h
  rcases run world hook s with ⟨_ | b, t⟩ <;> simp [Except.toOption]

theorem error_of_toOption {hook : Hook α} {s : Session σ}
    (h : (run world hook s).1.toOption = none) :
    ∃ e, run world hook s = (.error e, (run world hook s).2) := by
  revert h
  rcases run world hook s with ⟨_ | b, t⟩ <;> simp [Except.toOption]

/-! ## Single effects -/

@[simp] theorem run_log (event : LogEvent) (s : Session σ) :
    run world (Hook.log event) s = (.ok (), { s with log := s.log ++ [event] }) := rfl

@[simp] theorem run_message (text : String) (s : Session σ) :
    run world (Hook.debug text) s = (.ok (), { s with log := s.log ++ [.message .debug text] }) ∧
    run world (Hook.info text) s = (.ok (), { s with log := s.log ++ [.message .info text] }) ∧
    run world (Hook.warn text) s = (.ok (), { s with log := s.log ++ [.message .warn text] }) :=
  ⟨rfl, rfl, rfl⟩

@[simp] theorem run_call (c : Call) (s : Session σ) :
    run world (Hook.call c) s = (.ok (call world c s).1, (call world c s).2) := rfl

/-! ## Calls -/

def started (world : Collaborators σ) (c : Call) (s : Session σ) : Session σ :=
  { s with
    world := (world c s.world).2
    cancelled := (world c s.world).1.cancels
    calls := s.calls ++ [c] }

def noted (entry : ApiRecord) (s : Session σ) : Session σ :=
  { s with records := s.records ++ [entry] }

theorem call_of_cancelled {c : Call} {s : Session σ} (h : s.cancelled = true) :
    call world c s = (.stopped, s) := by
  unfold call
  rw [if_pos h]

theorem call_of_not_cancelled {c : Call} {s : Session σ} (h : s.cancelled = false) :
    call world c s =
      match (world c s.world).1.ending with
      | .returns a => (.completed a, s.started world c)
      | .fails error => (.failed error, s.started world c)
      | .hangs => (.stopped, { s.started world c with cancelled := true }) := by
  unfold call
  rw [if_neg (by simp [h])]
  rfl

theorem call_completed {c : Call} {s t : Session σ} {a : c.Answer}
    (h : call world c s = (.completed a, t)) :
    s.cancelled = false ∧ (world c s.world).1.ending = .returns a ∧ t = s.started world c := by
  cases hc : s.cancelled with
  | true => simp [call_of_cancelled hc] at h
  | false =>
    rw [call_of_not_cancelled hc] at h
    split at h
    · rename_i b hb
      obtain ⟨h1, h2⟩ := Prod.mk.inj h
      cases h1
      exact ⟨rfl, hb, h2.symm⟩
    · simp at h
    · simp at h

theorem call_of_returns {c : Call} {s : Session σ} {a : c.Answer} (h : s.cancelled = false)
    (ha : (world c s.world).1.ending = .returns a) :
    call world c s = (.completed a, s.started world c) := by
  rw [call_of_not_cancelled h, ha]

theorem call_of_fails {c : Call} {s : Session σ} {error : ErrorChain} (h : s.cancelled = false)
    (hf : (world c s.world).1.ending = .fails error) :
    call world c s = (.failed error, s.started world c) := by
  rw [call_of_not_cancelled h, hf]

theorem call_of_hangs {c : Call} {s : Session σ} (h : s.cancelled = false)
    (hh : (world c s.world).1.ending = .hangs) :
    call world c s = (.stopped, { s.started world c with cancelled := true }) := by
  rw [call_of_not_cancelled h, hh]

theorem call_world (world : Collaborators σ) (c : Call) (s : Session σ) :
    (call world c s).2.world = s.world ∨ (call world c s).2.world = (world c s.world).2 := by
  cases hc : s.cancelled with
  | true => exact .inl (by rw [call_of_cancelled hc])
  | false =>
    right
    rw [call_of_not_cancelled hc]
    split <;> rfl

/-! ## Calls of a site -/

theorem run_attempt (site : Hook.Site) (c : Call) (s : Session σ) :
    run world (site.attempt c) s =
      match call world c s with
      | (.completed a, t) => (.ok (.ok a), t)
      | (.failed error, t) => (.ok (.error error), t)
      | (.stopped, t) => (.error ⟨site.operation, site.resource, .cancelled⟩, t) := by
  rw [Hook.Site.attempt, run_bind, run_call]
  rcases call world c s with ⟨_ | _ | _, t⟩ <;> rfl

theorem run_service (site : Hook.Site) (c : ServiceCall) (s : Session σ) :
    run world (site.service c) s =
      match call world (.service c) s with
      | (.completed a, t) => (.ok a, t.noted ⟨c.type, c.name, none⟩)
      | (.failed error, t) =>
        (.error ⟨site.operation, site.resource, .retryable error⟩,
          t.noted ⟨c.type, c.name, some error⟩)
      | (.stopped, t) =>
        (.error ⟨site.operation, site.resource, .cancelled⟩,
          t.noted ⟨c.type, c.name, some ⟨s!"{c.name} cancelled", []⟩⟩) := by
  rw [Hook.Site.service, run_bind, run_call]
  rcases call world (.service c) s with ⟨_ | _ | _, t⟩ <;> rfl

theorem run_write (site : Hook.Site) (ns name key value : String) (s : Session σ) :
    run world (site.write ns name key value) s =
      match call world (.secret (.write ns name key value)) s with
      | (.completed _, t) => (.ok (), t)
      | (.failed error, t) => (.error ⟨site.operation, site.resource, .retryable error⟩, t)
      | (.stopped, t) => (.error ⟨site.operation, site.resource, .cancelled⟩, t) := by
  rw [Hook.Site.write, run_bind, run_attempt]
  rcases call world (.secret (.write ns name key value)) s with ⟨_ | _ | _, t⟩ <;> rfl

theorem run_resolve (site : Hook.Site) (ns field : String) (ref : SecretRef) (s : Session σ) :
    run world (site.resolve ns field ref) s =
      match call world (.secret (.resolve ns ref)) s with
      | (.completed value, t) => (.ok value, t)
      | (.failed error, t) =>
        (.error ⟨site.operation, site.resource, .terminal (.unresolvedSecret field ref.toText)⟩,
          { t with log := t.log ++ [.message .warn
            s!"Failed to resolve {field} secret reference {ref.toText} for {site.resource}: {error.toText}"] })
      | (.stopped, t) => (.error ⟨site.operation, site.resource, .cancelled⟩, t) := by
  rw [Hook.Site.resolve, run_bind, run_attempt]
  rcases call world (.secret (.resolve ns ref)) s with ⟨_ | _ | _, t⟩ <;> rfl

/-! ## Calls that succeed -/

theorem service_of_returns {site : Hook.Site} {c : ServiceCall} {s : Session σ} {a : c.Answer}
    (h : s.cancelled = false) (ha : (world (.service c) s.world).1.ending = .returns a) :
    run world (site.service c) s =
      (.ok a, (s.started world (.service c)).noted ⟨c.type, c.name, none⟩) := by
  rw [run_service, call_of_returns h ha]

theorem write_of_returns {site : Hook.Site} {ns name key value : String} {s : Session σ}
    (h : s.cancelled = false)
    (ha : (world (.secret (.write ns name key value)) s.world).1.ending = .returns ()) :
    run world (site.write ns name key value) s =
      (.ok (), s.started world (.secret (.write ns name key value))) := by
  rw [run_write, call_of_returns h ha]

theorem resolve_of_returns {site : Hook.Site} {ns field value : String} {ref : SecretRef}
    {s : Session σ} (h : s.cancelled = false)
    (ha : (world (.secret (.resolve ns ref)) s.world).1.ending = .returns value) :
    run world (site.resolve ns field ref) s =
      (.ok value, s.started world (.secret (.resolve ns ref))) := by
  rw [run_resolve, call_of_returns h ha]

theorem service_ok {site : Hook.Site} {c : ServiceCall} {s t : Session σ} {a : c.Answer}
    (h : run world (site.service c) s = (.ok a, t)) :
    s.cancelled = false ∧ (world (.service c) s.world).1.ending = .returns a ∧
      t = (s.started world (.service c)).noted ⟨c.type, c.name, none⟩ := by
  rw [run_service] at h
  rcases hc : call world (.service c) s with ⟨b | _ | _, u⟩
  · simp only [hc] at h
    obtain ⟨hb, rfl⟩ := Prod.mk.inj h
    cases hb
    obtain ⟨h1, h2, rfl⟩ := call_completed hc
    exact ⟨h1, h2, rfl⟩
  · simp [hc] at h
  · simp [hc] at h

theorem write_ok {site : Hook.Site} {ns name key value : String} {s t : Session σ} {a : Unit}
    (h : run world (site.write ns name key value) s = (.ok a, t)) :
    s.cancelled = false ∧
      (world (.secret (.write ns name key value)) s.world).1.ending = .returns () ∧
      t = s.started world (.secret (.write ns name key value)) := by
  rw [run_write] at h
  rcases hc : call world (.secret (.write ns name key value)) s with ⟨_ | _ | _, u⟩
  · simp only [hc, Prod.mk.injEq, true_and] at h
    subst h
    exact call_completed hc
  · simp [hc] at h
  · simp [hc] at h

theorem resolve_ok {site : Hook.Site} {ns field value : String} {ref : SecretRef} {s t : Session σ}
    (h : run world (site.resolve ns field ref) s = (.ok value, t)) :
    s.cancelled = false ∧ (world (.secret (.resolve ns ref)) s.world).1.ending = .returns value ∧
      t = s.started world (.secret (.resolve ns ref)) := by
  rw [run_resolve] at h
  rcases hc : call world (.secret (.resolve ns ref)) s with ⟨b | _ | _, u⟩
  · simp only [hc] at h
    obtain ⟨hb, rfl⟩ := Prod.mk.inj h
    cases hb
    exact call_completed hc
  · simp [hc] at h
  · simp [hc] at h

end Session

end CertSync
