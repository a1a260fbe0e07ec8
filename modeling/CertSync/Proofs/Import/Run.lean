import CertSync.Hook.Import
import CertSync.Proofs.Session.Trace

/-!
# A run of the import hook

An import first resolves what it is to send, and then sends it in one call. Whether it gets as far
as that call is settled by the spec and by what it resolves; the status has no part in it.
-/

namespace CertSync

variable {σ α β : Type} {world : Collaborators σ}

/-- The call makes a new certificate. -/
def Call.imports : Call → Bool
  | .service (.importCertificate _) => true
  | _ => false

/-! ## Hooks that import nothing -/

/-- Whatever it is answered, the hook makes no certificate. -/
inductive Hook.Spares : Hook α → Prop
  | done (result : Except HookError α) : Spares (Program.done result)
  | note {r : Effect} {next : r.Answer → Hook α} (hr : ∀ c, r ≠ .call c)
      (h : ∀ a, Spares (next a)) : Spares (Program.ask r next)
  | call {c : Call} {next : Outcome c.Answer → Hook α} (hc : c.imports = false)
      (h : ∀ outcome, Spares (next outcome)) : Spares (Program.ask (.call c) next)

namespace Hook.Spares

theorem bind {hook : Hook α} {next : α → Hook β} (h : Spares hook) (hnext : ∀ a, Spares (next a)) :
    Spares (hook >>= next) := by
  induction h with
  | done result =>
    cases result with
    | error e => exact .done _
    | ok a => exact hnext a
  | note hr _ ih => exact .note hr ih
  | call hc _ ih => exact .call hc ih

theorem resolve (site : Site) (ns field : String) (ref : SecretRef) :
    Spares (site.resolve ns field ref) := by
  refine .call rfl fun outcome => ?_
  cases outcome with
  | completed value => exact .done _
  | failed error => exact .note (fun _ h => nomatch h) fun _ => .done _
  | stopped => exact .done _

theorem countP_calls (world : Collaborators σ) {hook : Hook α} (h : Spares hook)
    (s : Session σ) :
    (Session.run world hook s).2.calls.countP Call.imports = s.calls.countP Call.imports := by
  induction h generalizing s with
  | done result => rfl
  | note hr _ ih =>
    rw [Session.run_ask, ih, (Session.handle_note world hr s).calls]
  | @call c next hc _ ih =>
    rw [Session.run_ask_call, ih]
    cases hs : s.cancelled with
    | true => rw [Session.call_of_cancelled hs]
    | false => simp [Session.call_calls hs, hc]

theorem countP_calls_bind {next : α → Hook β} (hnext : ∀ a, Spares (next a)) (hook : Hook α)
    (s : Session σ) :
    (Session.run world (hook >>= next) s).2.calls.countP Call.imports =
      (Session.run world hook s).2.calls.countP Call.imports := by
  rw [Session.run_bind]
  rcases Session.run world hook s with ⟨e | a, t⟩
  · rfl
  · exact countP_calls world (hnext a) t

end Hook.Spares

namespace Certificate

variable {config : Config} {c : Certificate} {request : ImportRequest} {s t : Session σ}

theorem resolveMaterial_spares (field : String) (ref : SecretRef) :
    (c.resolveMaterial field ref).Spares := by
  unfold resolveMaterial
  refine .bind (.resolve _ _ _ _) fun value => ?_
  cases value.isEmpty with
  | true => exact .done _
  | false => exact .done _

theorem importRef_spares (field : String) (ref : Option SecretRef) :
    (c.importRef field ref).Spares := by
  cases ref with
  | none => exact .done _
  | some ref => exact .done _

theorem resolveChain_spares : c.resolveChain.Spares := by
  unfold resolveChain
  cases c.spec.certificateChain with
  | none => exact .done _
  | some ref => exact .bind (.resolve _ _ _ _) fun _ => .done _

theorem importRequest_spares : c.importRequest.Spares := by
  unfold importRequest
  refine .bind (importRef_spares _ _) fun _ => .bind (importRef_spares _ _) fun _ => ?_
  refine .bind (resolveMaterial_spares _ _) fun _ => .bind (resolveMaterial_spares _ _) fun _ => ?_
  exact .bind resolveChain_spares fun _ => .done _

/-! ## The parts of the hook -/

def importSpan (c : Certificate) : LogEvent :=
  .span "certificate.import" [
    ("resource.name", .text c.nameOrUnknown),
    ("resource.namespace", .text c.nsOrDefault)]

def submit (config : Config) (c : Certificate) (request : ImportRequest) :
    Hook (Option ImportOutcome) := do
  Hook.debug s!"Importing certificate for {c.resourceKey}: {request.summary}"
  let arn : String ← c.importSite.service (.importCertificate request)
  Hook.info s!"Imported certificate {arn} for {c.resourceKey}"
  Hook.wait config.postCreateDelay.toNat
  return some { resource := c.imported arn, created := true }

theorem importHook_of_imported (h : c.mode = .ok .imported) :
    importHook config c = (do
      Hook.log c.importSpan
      let request ← c.importRequest
      c.submit config request) := by
  unfold importHook
  rw [h]
  rfl

theorem importHook_of_not_imported {mode : AcquisitionMode} (h : c.mode = .ok mode)
    (hmode : mode ≠ .imported) : importHook config c = pure none := by
  unfold importHook
  rw [h]
  cases mode with
  | imported => exact absurd rfl hmode
  | requested => rfl
  | unspecified => rfl

theorem submit_countP (s : Session σ) :
    (Session.run world (c.submit config request) s).2.calls.countP Call.imports =
      s.calls.countP Call.imports + if s.cancelled then 0 else 1 := by
  obtain ⟨s', hs', halike⟩ : ∃ s', Session.run world (Hook.debug _) s = (.ok (), s') ∧
      Session.Alike s s' := Session.exists_run_log world (.message .debug _) s
  unfold submit
  rw [Session.run_bind_ok hs']
  refine (Hook.Spares.countP_calls_bind ?_ _ _).trans ?_
  · intro arn
    exact .note (fun _ h => nomatch h) fun _ => .note (fun _ h => nomatch h) fun _ => .done _
  rw [← halike.cancelled, ← halike.calls]
  refine (congrArg _ (Session.service_calls _ _ _)).trans ?_
  cases hcancelled : s'.cancelled with
  | true =>
    rw [Session.call_of_cancelled hcancelled]
    rfl
  | false =>
    rw [Session.call_calls hcancelled, List.countP_append]
    rfl

theorem submit_ok {outcome : Option ImportOutcome}
    (hok : Session.run world (c.submit config request) s = (.ok outcome, t)) :
    s.cancelled = false ∧
      ∃ arn, outcome = some { resource := c.imported arn, created := true } := by
  unfold submit at hok
  rw [Session.run_bind_ok (Session.run_message _ s).1] at hok
  obtain ⟨arn, s1, hservice, hok⟩ := Session.bind_ok hok
  obtain ⟨hs, -⟩ := Session.service_ok hservice
  cases hok
  exact ⟨hs, arn, rfl⟩

/-! ## The hook -/

/-- The run gets hold of all that it is to send, and is not cancelled by then. -/
def ready (c : Certificate) (world : Collaborators σ) (s : Session σ) : Bool :=
  let resolved := Session.run world c.importRequest s
  resolved.1.toOption.isSome && !resolved.2.cancelled

theorem ready_congr (h : Session.Alike s t) : c.ready world t = c.ready world s := by
  obtain ⟨hresult, hafter⟩ := h.run world c.importRequest
  simp only [ready, hresult, hafter.cancelled]

theorem importHook_countP (h : c.mode = .ok .imported) (s : Session σ) :
    (Session.run world (importHook config c) s).2.calls.countP Call.imports =
      s.calls.countP Call.imports + if c.ready world s then 1 else 0 := by
  obtain ⟨s', hs', halike⟩ := Session.exists_run_log world c.importSpan s
  have hspares := Hook.Spares.countP_calls world (importRequest_spares (c := c)) s'
  rw [importHook_of_imported h, Session.run_bind_ok hs', ← ready_congr halike, ← halike.calls,
    ← hspares, ready]
  rcases hresolved : Session.run world c.importRequest s' with ⟨e | request, t⟩
  · rw [Session.run_bind_error hresolved]
    rfl
  · rw [Session.run_bind_ok hresolved, submit_countP]
    cases t.cancelled <;> rfl

theorem importHook_ok {outcome : Option ImportOutcome} (h : c.mode = .ok .imported)
    (hok : Session.run world (importHook config c) s = (.ok outcome, t)) :
    c.ready world s = true ∧
      ∃ arn, outcome = some { resource := c.imported arn, created := true } := by
  obtain ⟨s', hs', halike⟩ := Session.exists_run_log world c.importSpan s
  rw [importHook_of_imported h, Session.run_bind_ok hs'] at hok
  obtain ⟨request, s1, hresolved, hok⟩ := Session.bind_ok hok
  obtain ⟨hs1, hsubmit⟩ := submit_ok hok
  refine ⟨?_, hsubmit⟩
  rw [← ready_congr halike]
  simp [ready, hresolved, hs1, Except.toOption]

/-- A resource whose certificate and key are each in an entry of a secret. -/
def importing : Certificate where
  metadata := { name := some "web" }
  spec := {
    certificate := some ⟨"imported", none, "tls.crt"⟩
    privateKey := some ⟨"imported", none, "tls.key"⟩ }

end Certificate

end CertSync
