import CertSync.Acm.Service
import CertSync.Proofs.Acm.Answer
import CertSync.Proofs.Export.Course
import CertSync.Proofs.Import.Course
import CertSync.Proofs.Operation.Naming
import CertSync.Proofs.Session.Ledger

/-!
# Hooks over the certificate service

An export and an import each make one call to the service. What becomes of them from there is
settled by the response: of the errors that it can be, an export takes one for an outcome, and all
others end the run, before anything is written.
-/

namespace CertSync

variable {σ : Type}

namespace AcmServer

variable {server : AcmServer σ} {keeper : SecretKeeper σ}
  {c : ServiceCall} {w w' : σ} {cancels : Bool}

/-- The response to the call. -/
def response (server : AcmServer σ) (c : ServiceCall) (w : σ) : HttpResponse :=
  (server.respond c.toAcm w).1

theorem ofResponse_of_returns {a : c.Answer}
    (h : server.collaborators keeper (.service c) w = (⟨.returns a, cancels⟩, w')) :
    c.ofResponse (server.response c w) = .ok a := by
  have hending : server.ending c (server.response c w) = .returns a :=
    congrArg (fun went => went.1.ending) h
  unfold ending at hending
  cases hread : c.ofResponse (server.response c w) with
  | ok found => rw [hread] at hending; cases hending; rfl
  | error defect => rw [hread] at hending; cases hending

theorem ofResponse_of_fails {error : ErrorChain}
    (h : server.collaborators keeper (.service c) w = (⟨.fails error, cancels⟩, w'))
    (a : c.Answer) : c.ofResponse (server.response c w) ≠ .ok a := by
  intro hread
  have hending : server.ending c (server.response c w) = .fails error :=
    congrArg (fun went => went.1.ending) h
  rw [ending, hread] at hending
  cases hending

end AcmServer

namespace Certificate

variable {server : AcmServer σ} {keeper : SecretKeeper σ} {config : Config} {c : Certificate}

/-! ## Exports -/

/-- What becomes of an export whose call to the service is answered with this response, `w` being
the state after it: the calls that follow, what the run ends in, and what it records. -/
structure ExportSettled (world : Collaborators σ) (c : Certificate) (passphrase : String)
    (dest : ExportDestination) (response : HttpResponse) (w : σ) (after : List (Call × σ))
    (result : Except HookError ExportOutcome) (entries : List ApiRecord) : Prop where
  notFound : result = .ok .remoteNotFound ↔ response.IsNotFound
  /-- The material is taken as it came. -/
  exported (m : ExportedMaterial) (h : response.Exports m) : ∃ delivered w',
    DeliveryCourse world c passphrase dest m w after delivered w' ∧
      result = delivered.map fun _ => .exported dest
  refused (hfound : ¬response.IsNotFound) (hexports : ∀ m, ¬response.Exports m) :
    ∃ error, result = .error (c.exportSite.error (.retryable error)) ∧
      entries = [⟨"READ_ONE", "ExportCertificate", some error⟩]
  unwritten (hexports : ∀ m, ¬response.Exports m) : after = []
  recorded (h : response.IsNotFound ∨ ∃ m, response.Exports m) :
    entries = [⟨"READ_ONE", "ExportCertificate", none⟩]

theorem not_isNotFound_of_exports {response : HttpResponse} {m : ExportedMaterial}
    (h : response.Exports m) : ¬response.IsNotFound :=
  fun hfound => hfound.1 h.1

theorem DeliveryCourse.entries_eq_nil {world : Collaborators σ} {passphrase : String}
    {dest : ExportDestination} {material : ExportedMaterial} {w w' : σ} {made : List (Call × σ)}
    {result : Except HookError Unit}
    (h : DeliveryCourse world c passphrase dest material w made result w') :
    made.flatMap (Session.entries world) = [] := by
  cases h <;> rfl

variable {arn passphrase : String} {dest : ExportDestination} {w w1 w2 w' : σ}

theorem exportSettled_of_fails {error : ErrorChain}
    (h : server.collaborators keeper (exportCall arn passphrase) w1 = (⟨.fails error, false⟩, w2)) :
    ExportSettled (server.collaborators keeper) c passphrase dest
      (server.response (.exportCertificate arn (Bytes.ofText passphrase)) w1) w2 []
      (.error (c.exportSite.error (.retryable error)))
      [⟨"READ_ONE", "ExportCertificate", some error⟩] := by
  have hfound :
      ¬(server.response (.exportCertificate arn (Bytes.ofText passphrase)) w1).IsNotFound :=
    fun hfound => AcmServer.ofResponse_of_fails h _ (ServiceCall.export_notFound_iff.mpr hfound)
  have hexports (m : ExportedMaterial) :
      ¬(server.response (.exportCertificate arn (Bytes.ofText passphrase)) w1).Exports m :=
    fun hexports => AcmServer.ofResponse_of_fails h _ (ServiceCall.export_exported_iff.mpr hexports)
  exact {
    notFound := iff_of_false nofun hfound
    exported m h := absurd h (hexports m)
    refused _ _ := ⟨error, rfl, rfl⟩
    unwritten _ := rfl
    recorded h := absurd h (not_or.mpr ⟨hfound, not_exists.mpr hexports⟩) }

theorem exportSettled_of_notFound
    (h : server.collaborators keeper (exportCall arn passphrase) w1 =
      (⟨.returns ExportAnswer.notFound, false⟩, w2)) :
    ExportSettled (server.collaborators keeper) c passphrase dest
      (server.response (.exportCertificate arn (Bytes.ofText passphrase)) w1) w2 []
      (.ok .remoteNotFound) [⟨"READ_ONE", "ExportCertificate", none⟩] := by
  have hfound := ServiceCall.export_notFound_iff.mp (AcmServer.ofResponse_of_returns h)
  exact {
    notFound := iff_of_true rfl hfound
    exported _ h := absurd hfound (not_isNotFound_of_exports h)
    refused h := absurd hfound h
    unwritten _ := rfl
    recorded _ := rfl }

theorem exportSettled_of_exported {material : ExportedMaterial} {after : List (Call × σ)}
    {result : Except HookError Unit}
    (h : server.collaborators keeper (exportCall arn passphrase) w1 =
      (⟨.returns (ExportAnswer.exported material), false⟩, w2))
    (hdeliver : DeliveryCourse (server.collaborators keeper) c passphrase dest material w2 after
      result w') :
    ExportSettled (server.collaborators keeper) c passphrase dest
      (server.response (.exportCertificate arn (Bytes.ofText passphrase)) w1) w2 after
      (result.map fun _ => .exported dest) [⟨"READ_ONE", "ExportCertificate", none⟩] := by
  have hread := AcmServer.ofResponse_of_returns h
  have hexports := ServiceCall.export_exported_iff.mp hread
  exact {
    notFound := iff_of_false (by cases result <;> nofun) (not_isNotFound_of_exports hexports)
    exported m hm := by
      cases hread.symm.trans (ServiceCall.export_exported_iff.mpr hm)
      exact ⟨result, w', hdeliver, rfl⟩
    refused _ h := absurd hexports (h material)
    unwritten h := absurd hexports (h material)
    recorded _ := rfl }

theorem flatMap_entries_export {ref : SecretRef} {ending : Ending ExportAnswer}
    {after : List (Call × σ)}
    (hexport : server.collaborators keeper (exportCall arn passphrase) w1 = (⟨ending, false⟩, w2))
    (hafter : after.flatMap (Session.entries (server.collaborators keeper)) = []) :
    ((c.passphraseCall ref, w) :: (exportCall arn passphrase, w1) :: after).flatMap
        (Session.entries (server.collaborators keeper)) =
      [ServiceCall.entry (.exportCertificate arn (Bytes.ofText passphrase)) ending.outcome] := by
  rw [List.flatMap_cons, List.flatMap_cons, hafter, List.append_nil]
  exact Session.entries_service hexport

theorem ExportCourse.settled {ref : SecretRef} {made : List (Call × σ)}
    {result : Except HookError ExportOutcome}
    (h : ExportCourse (server.collaborators keeper) c arn ref dest w made result w') :
    made = [(c.passphraseCall ref, w)] ∧ result ≠ .ok .remoteNotFound ∨
      ∃ passphrase w1 after,
        made = (c.passphraseCall ref, w) :: (exportCall arn passphrase, w1) :: after ∧
        ExportSettled (server.collaborators keeper) c passphrase dest
          (server.response (.exportCertificate arn (Bytes.ofText passphrase)) w1)
          (server.collaborators keeper (exportCall arn passphrase) w1).2 after result
          (made.flatMap (Session.entries (server.collaborators keeper))) := by
  cases h with
  | unresolved => exact .inl ⟨rfl, nofun⟩
  | emptyPassphrase => exact .inl ⟨rfl, nofun⟩
  | exportFailed _ _ hexport =>
    refine .inr ⟨_, _, [], rfl, ?_⟩
    rw [flatMap_entries_export hexport rfl, hexport]
    exact exportSettled_of_fails hexport
  | notFound _ _ hexport =>
    refine .inr ⟨_, _, [], rfl, ?_⟩
    rw [flatMap_entries_export hexport rfl, hexport]
    exact exportSettled_of_notFound hexport
  | delivers _ _ hexport hdeliver =>
    refine .inr ⟨_, _, _, rfl, ?_⟩
    rw [flatMap_entries_export hexport hdeliver.entries_eq_nil, hexport]
    exact exportSettled_of_exported hexport hdeliver

end Certificate

end CertSync
