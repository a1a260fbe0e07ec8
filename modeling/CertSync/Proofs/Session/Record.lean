import CertSync.Proofs.Session.Composition
import CertSync.Proofs.Session.Trace
import Mathlib.Data.List.Forall2

/-!
# What is recorded of a run

A run records each call to the certificate service that it comes to, and nothing else. That holds
for calls that it does not start any more because it was cancelled: these count as well.
-/

namespace CertSync

variable {σ α β : Type} {world : Collaborators σ}

/-- The type and the name under which a call is recorded. -/
inductive ServiceCall.RecordedAs : ServiceCall → String → String → Prop
  | importCertificate (request : ImportRequest) :
      RecordedAs (.importCertificate request) "CREATE" "ImportCertificate"
  | exportCertificate (arn : String) (passphrase : Bytes) :
      RecordedAs (.exportCertificate arn passphrase) "READ_ONE" "ExportCertificate"
  | addTags (arn : String) (tags : TagSet) :
      RecordedAs (.addTags arn tags) "UPDATE" "AddTagsToCertificate"
  | removeTags (arn : String) (tags : TagSet) :
      RecordedAs (.removeTags arn tags) "UPDATE" "RemoveTagsFromCertificate"
  | listTags (arn : String) : RecordedAs (.listTags arn) "GET" "ListTagsForCertificate"

theorem ServiceCall.recordedAs : ∀ c : ServiceCall, c.RecordedAs c.type c.name
  | importCertificate request => .importCertificate request
  | exportCertificate arn passphrase => .exportCertificate arn passphrase
  | addTags arn tags => .addTags arn tags
  | removeTags arn tags => .removeTags arn tags
  | listTags arn => .listTags arn

/-- A call to the certificate service that a run came to, and the session as it was then. -/
structure Attempt (σ : Type) where
  call : ServiceCall
  session : Session σ

namespace Attempt

def started (a : Attempt σ) : Bool := !a.session.cancelled

def ending (world : Collaborators σ) (a : Attempt σ) : Ending a.call.Answer :=
  (world (.service a.call) a.session.world).1.ending

/-- The entry says which call it is about and how that went. -/
structure DocumentedBy (world : Collaborators σ) (a : Attempt σ) (entry : ApiRecord) : Prop where
  call : a.call.RecordedAs entry.type entry.name
  success : entry.error = none ↔ a.started = true ∧ ∃ answer, a.ending world = .returns answer
  failed (error : ErrorChain) (hstarted : a.started = true)
    (hfails : a.ending world = .fails error) : entry.error = some error
  stopped (h : a.started = false ∨ a.ending world = .hangs) :
    entry.error = some ⟨s!"{entry.name} cancelled", []⟩

end Attempt

def ServiceCall.entry (c : ServiceCall) : Outcome c.Answer → ApiRecord
  | .completed _ => ⟨c.type, c.name, none⟩
  | .failed error => ⟨c.type, c.name, some error⟩
  | .stopped => ⟨c.type, c.name, some ⟨s!"{c.name} cancelled", []⟩⟩

def Call.service? : Call → Option ServiceCall
  | .service c => some c
  | .secret _ => none

namespace Session

/-! ## The attempts of a run -/

def attempting (s : Session σ) : Effect → List (Attempt σ)
  | .call (.service c) => [⟨c, s⟩]
  | _ => []

def attempts (world : Collaborators σ) :
    Program Effect Effect.Answer (Except HookError α) → Session σ → List (Attempt σ)
  | .done _, _ => []
  | .ask r next, s =>
    s.attempting r ++ attempts world (next (handle world r s).1) (handle world r s).2

theorem attempts_ask (r : Effect) (next : r.Answer → Hook α) (s : Session σ) :
    attempts world (Program.ask r next) s =
      s.attempting r ++ attempts world (next (handle world r s).1) (handle world r s).2 := rfl

theorem attempts_note {r : Effect} (hr : ∀ c, r ≠ .call c) (next : r.Answer → Hook α) (a : r.Answer)
    (s : Session σ) :
    attempts world (Program.ask r next) s = attempts world (next a) (handle world r s).2 := by
  cases r with
  | call c => exact absurd rfl (hr c)
  | record entry => rfl
  | log event => rfl
  | wait seconds => rfl

theorem attempts_service (c : ServiceCall) (next : Outcome (Call.service c).Answer → Hook α)
    (s : Session σ) :
    attempts world (Program.ask (.call (.service c)) next : Hook α) s =
      ⟨c, s⟩ :: attempts world (next (call world (.service c) s).1)
        (call world (.service c) s).2 := rfl

theorem starting_services (s : Session σ) (r : Effect) :
    (s.starting r).filterMap (fun call => call.1.service?) =
      ((s.attempting r).filter Attempt.started).map Attempt.call := by
  cases r with
  | call c =>
    cases hs : s.cancelled <;> cases c <;>
      simp [starting, attempting, Attempt.started, Call.service?, hs]
  | record entry => rfl
  | log event => rfl
  | wait seconds => rfl

theorem trace_services (world : Collaborators σ) (hook : Hook α) (s : Session σ) :
    (trace world hook s).filterMap (fun call => call.1.service?) =
      ((attempts world hook s).filter Attempt.started).map Attempt.call := by
  induction hook using Program.rec generalizing s with
  | done result => rfl
  | ask r next ih =>
    rw [trace_ask, attempts_ask, List.filterMap_append, starting_services, ih, List.filter_append,
      List.map_append]

theorem run_services (world : Collaborators σ) (hook : Hook α) (s : Session σ) :
    (run world hook s).2.calls.filterMap Call.service? =
      s.calls.filterMap Call.service? ++
        ((attempts world hook s).filter Attempt.started).map Attempt.call := by
  rw [run_calls, List.filterMap_append, List.filterMap_map, ← trace_services]
  rfl

/-! ## The entry of an attempt -/

theorem call_records (world : Collaborators σ) (c : Call) (s : Session σ) :
    (call world c s).2.records = s.records := by
  cases hs : s.cancelled with
  | true => rw [call_of_cancelled hs]
  | false =>
    rw [call_of_not_cancelled hs]
    cases (world c s.world).1.ending <;> rfl

theorem documentedBy_entry (world : Collaborators σ) (c : ServiceCall) (s : Session σ) :
    Attempt.DocumentedBy world ⟨c, s⟩ (c.entry (call world (.service c) s).1) := by
  cases hs : s.cancelled with
  | true =>
    rw [call_of_cancelled hs]
    exact ⟨c.recordedAs, by simp [ServiceCall.entry, Attempt.started, hs],
      fun _ h => by simp [Attempt.started, hs] at h, fun _ => rfl⟩
  | false =>
    have hstarted : (⟨c, s⟩ : Attempt σ).started = true := by simp [Attempt.started, hs]
    rw [call_outcome hs]
    cases hending : (world (.service c) s.world).1.ending with
    | returns answer =>
      have hreturns : (⟨c, s⟩ : Attempt σ).ending world = .returns answer := hending
      refine ⟨c.recordedAs, iff_of_true rfl ⟨hstarted, answer, hreturns⟩, ?_, ?_⟩ <;>
        simp [hstarted, hreturns]
    | fails error =>
      have hfails : (⟨c, s⟩ : Attempt σ).ending world = .fails error := hending
      refine ⟨c.recordedAs, ?_, ?_, ?_⟩ <;> simp [ServiceCall.entry, hstarted, hfails]
    | hangs =>
      have hhangs : (⟨c, s⟩ : Attempt σ).ending world = .hangs := hending
      refine ⟨c.recordedAs, ?_, ?_, ?_⟩ <;> simp [ServiceCall.entry, hhangs]

end Session

/-! ## Hooks that record their calls -/

namespace Hook

/-- The hook records each call to the service as soon as it knows how it went, and it records
nothing else. -/
inductive Accounts : Hook α → Prop
  | done (result : Except HookError α) : Accounts (Program.done result)
  | note {r : Effect} {next : r.Answer → Hook α} (hcall : ∀ c, r ≠ .call c)
      (hrecord : ∀ entry, r ≠ .record entry) (h : ∀ a, Accounts (next a)) :
      Accounts (Program.ask r next)
  | secretCall {c : SecretCall} {next : Outcome (Call.secret c).Answer → Hook α}
      (h : ∀ outcome, Accounts (next outcome)) : Accounts (Program.ask (.call (.secret c)) next)
  | serviceCall {c : ServiceCall} {next rest : Outcome (Call.service c).Answer → Hook α}
      (hnext : ∀ outcome,
        next outcome = Program.ask (.record (c.entry outcome)) fun _ => rest outcome)
      (h : ∀ outcome, Accounts (rest outcome)) : Accounts (Program.ask (.call (.service c)) next)

namespace Accounts

theorem log (event : LogEvent) : Accounts (Hook.log event) :=
  .note (fun _ h => nomatch h) (fun _ h => nomatch h) fun _ => .done _

theorem wait (seconds : Nat) : Accounts (Hook.wait seconds) :=
  .note (fun _ h => nomatch h) (fun _ h => nomatch h) fun _ => .done _

theorem write (site : Site) (ns name key value : String) :
    Accounts (site.write ns name key value) := by
  refine .secretCall fun outcome => ?_
  cases outcome <;> exact .done _

theorem resolve (site : Site) (ns field : String) (ref : SecretRef) :
    Accounts (site.resolve ns field ref) := by
  refine .secretCall fun outcome => ?_
  cases outcome with
  | completed value => exact .done _
  | failed error =>
    exact .note (fun _ h => nomatch h) (fun _ h => nomatch h) fun _ => .done _
  | stopped => exact .done _

/-- How a call to the service ends the hook or lets it go on. -/
def settled (site : Site) (c : ServiceCall) : Outcome c.Answer → Hook c.Answer
  | .completed a => Pure.pure a
  | .failed error => site.fail (.retryable error)
  | .stopped => site.fail .cancelled

theorem service (site : Site) (c : ServiceCall) : Accounts (site.service c) := by
  refine @serviceCall _ c _ (settled site c) (fun outcome => ?_) fun outcome => ?_
  · cases outcome <;> rfl
  · cases outcome <;> exact .done _

theorem bind {hook : Hook α} {next : α → Hook β} (h : Accounts hook)
    (hnext : ∀ a, Accounts (next a)) : Accounts (hook >>= next) := by
  induction h with
  | done result =>
    cases result with
    | error e => exact .done _
    | ok a => exact hnext a
  | note hcall hrecord _ ih => exact .note hcall hrecord ih
  | secretCall _ ih => exact .secretCall ih
  | @serviceCall c rest settled hrest _ ih =>
    refine .serviceCall (fun outcome => ?_) ih
    change rest outcome >>= next = _
    rw [hrest outcome]
    rfl

end Accounts

theorem Composed.accounts {hook : Hook α} (h : Composed hook) : hook.Accounts := by
  induction h with
  | pure a => exact .done _
  | throw e => exact .done _
  | log event => exact .log event
  | wait seconds => exact .wait seconds
  | service site c => exact .service site c
  | write site ns name key value => exact .write site ns name key value
  | resolve site ns field ref => exact .resolve site ns field ref
  | bind _ _ ih ihnext => exact ih.bind ihnext

end Hook

namespace Session

theorem run_records (world : Collaborators σ) {hook : Hook α} (h : hook.Accounts) (s : Session σ) :
    ∃ entries, (run world hook s).2.records = s.records ++ entries ∧
      List.Forall₂ (Attempt.DocumentedBy world) (attempts world hook s) entries := by
  induction h generalizing s with
  | done result => exact ⟨[], (List.append_nil _).symm, .nil⟩
  | @note r next hcall hrecord _ ih =>
    have a := (handle world r s).1
    rw [run_note hcall _ a, attempts_note hcall _ a]
    obtain ⟨entries, hrecords, hentries⟩ := ih a (handle world r s).2
    refine ⟨entries, hrecords.trans ?_, hentries⟩
    cases r with
    | call c => exact absurd rfl (hcall c)
    | record entry => exact absurd rfl (hrecord entry)
    | log event => rfl
    | wait seconds => rfl
  | @secretCall c next _ ih =>
    obtain ⟨entries, hrecords, hentries⟩ := ih (call world (.secret c) s).1
      (call world (.secret c) s).2
    rw [call_records] at hrecords
    exact ⟨entries, hrecords, hentries⟩
  | @serviceCall c next rest hnext _ ih =>
    let went := call world (.service c) s
    obtain ⟨entries, hrecords, hentries⟩ := ih went.1 (went.2.noted (c.entry went.1))
    refine ⟨c.entry went.1 :: entries, ?_, ?_⟩
    · rw [run_ask_call, hnext]
      refine hrecords.trans ?_
      simp only [noted, went, call_records, List.append_assoc, List.singleton_append]
    · rw [attempts_service, hnext]
      exact .cons (documentedBy_entry world c s) hentries

end Session

end CertSync
