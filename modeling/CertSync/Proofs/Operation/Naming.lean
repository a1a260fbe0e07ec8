import CertSync.Proofs.Export.Footprint
import CertSync.Proofs.Import.Run
import CertSync.Proofs.Operation.Basic
import CertSync.Proofs.Session.Record

/-!
# What the errors name

An error is to name the operation that failed and the resource that it failed for. Which names it
gives is settled by the operation, whatever the run was answered; but the calls for tags name
something else than the operation that makes them.
-/

namespace CertSync

variable {σ : Type}

namespace Certificate

/-! ## The errors of an import -/

/-- A hook that calls only for secrets, and whose errors are all those of an import of the
resource. -/
abbrev ReadsForImport {α : Type} (c : Certificate) (hook : Hook α) : Prop :=
  hook.Confined (fun call => call.service? = none) fun e => e.site = c.importSite

variable {config : Config} {c : Certificate}

theorem resolveMaterial_reads (field : String) (ref : SecretRef) :
    c.ReadsForImport (c.resolveMaterial field ref) := by
  unfold resolveMaterial
  refine .bind (.resolve rfl fun _ => rfl) fun value => ?_
  cases value.isEmpty with
  | true => exact .bind (.throw rfl) fun _ => .pure _
  | false => exact .pure _

theorem importRef_reads (field : String) (ref : Option SecretRef) :
    c.ReadsForImport (c.importRef field ref) := by
  cases ref with
  | none => exact .throw rfl
  | some ref => exact .pure _

theorem resolveChain_reads : c.ReadsForImport c.resolveChain := by
  unfold resolveChain
  cases c.spec.certificateChain with
  | none => exact .pure _
  | some ref => exact .bind (.resolve rfl fun _ => rfl) fun _ => .pure _

theorem importRequest_reads : c.ReadsForImport c.importRequest := by
  unfold importRequest
  refine .bind (importRef_reads _ _) fun _ => .bind (importRef_reads _ _) fun _ => ?_
  refine .bind (resolveMaterial_reads _ _) fun _ => .bind (resolveMaterial_reads _ _) fun _ => ?_
  exact .bind resolveChain_reads fun _ => .pure _

theorem importHook_names :
    (importHook config c).Confined (fun _ => True) fun e => e.site = c.importSite := by
  unfold importHook
  cases c.mode with
  | error reason => exact .throw rfl
  | ok mode =>
    cases mode with
    | imported =>
      have hrequest := importRequest_reads (c := c).mono (fun _ _ => trivial) fun _ h => h
      refine .bind (.log _) fun _ => .bind hrequest fun _ => .bind (.log _) fun _ => ?_
      refine .bind (.service trivial fun _ => rfl) fun _ => ?_
      exact .bind (.log _) fun _ => .bind (.wait _) fun _ => .pure _
    | requested => exact .pure _
    | unspecified => exact .pure _

end Certificate

/-! ## The calls for tags, and their errors -/

/-- The call is about tags alone. -/
def Call.isForTags : Call → Bool
  | .service (.addTags _ _) => true
  | .service (.removeTags _ _) => true
  | .service (.listTags _) => true
  | _ => false

abbrev Hook.ConfinedToTags {α : Type} (site : Hook.Site) (hook : Hook α) : Prop :=
  hook.Confined (fun c => c.isForTags = true) fun e => e.site = site

theorem removeTags_confined (site : Hook.Site) (arn : String) (tags : TagSet) :
    (removeTags site arn tags).ConfinedToTags site := by
  cases hempty : tags.isEmpty with
  | true =>
    rw [removeTags_of_isEmpty hempty]
    exact .pure _
  | false =>
    rw [removeTags_of_not_isEmpty hempty]
    exact .bind (.forM fun _ => .log _) fun _ => .service rfl fun _ => rfl

theorem addTags_confined (site : Hook.Site) (arn : String) (tags : TagSet) :
    (addTags site arn tags).ConfinedToTags site := by
  cases hempty : tags.isEmpty with
  | true =>
    rw [addTags_of_isEmpty hempty]
    exact .pure _
  | false =>
    rw [addTags_of_not_isEmpty hempty]
    exact .bind (.forM fun _ => .log _) fun _ => .service rfl fun _ => rfl

theorem syncTags_confined (arn : String) (desired observed : TagSet) :
    (syncTags arn desired observed).ConfinedToTags ⟨"sync_tags", arn⟩ :=
  .bind (.log _) fun _ => .bind (removeTags_confined _ _ _) fun _ =>
    .bind (addTags_confined _ _ _) fun _ => .pure _

theorem listTags_confined (arn : String) : (listTags arn).ConfinedToTags ⟨"list_tags", arn⟩ :=
  .service rfl fun _ => rfl

/-! ## Operations -/

namespace Operation

/-- The resource that an operation works on. -/
def subject : Operation → Certificate
  | validate c => c
  | importing _ c => c
  | exporting _ c => c
  | syncTags _ latest => latest
  | observeTags latest => latest

def name : Operation → String
  | validate _ => "validate"
  | importing _ _ => "import"
  | exporting _ _ => "export"
  | syncTags _ _ => "sync_tags"
  | observeTags _ => "observe_tags"

/-- What an error of the operation is to name. -/
def site (o : Operation) : Hook.Site := ⟨o.name, o.subject.resourceKey⟩

/-- What its errors do name. -/
def reportedSite : Operation → Hook.Site
  | syncTags _ latest => ⟨"sync_tags", latest.arn?.getD latest.resourceKey⟩
  | observeTags latest =>
    match latest.arn? with
    | none => ⟨"observe_tags", latest.resourceKey⟩
    | some arn => ⟨"list_tags", arn⟩
  | o => o.site

/-- The identifier of the certificate does not come between the operation and its errors. -/
def NamesSubject : Operation → Prop
  | syncTags _ latest => ∀ arn, latest.arn? = some arn → arn = latest.resourceKey
  | observeTags latest => latest.arn? = none
  | _ => True

theorem reportedSite_eq_iff (o : Operation) : o.reportedSite = o.site ↔ o.NamesSubject := by
  cases o with
  | validate c => exact ⟨fun _ => trivial, fun _ => rfl⟩
  | importing config c => exact ⟨fun _ => trivial, fun _ => rfl⟩
  | exporting config c => exact ⟨fun _ => trivial, fun _ => rfl⟩
  | syncTags desired latest =>
    simp only [reportedSite, site, name, subject, NamesSubject, Hook.Site.mk.injEq, true_and]
    cases latest.arn? with
    | none => simp
    | some arn => simp
  | observeTags latest =>
    simp only [reportedSite, site, name, subject, NamesSubject]
    cases latest.arn? with
    | none => simp
    | some arn => simp

theorem validate_names (c : Certificate) :
    (validate c).hook.Confined (fun _ => True) fun e => e.site = (validate c).site := by
  rw [hook, Certificate.validate]
  cases c.check with
  | error reason => exact .error rfl
  | ok mode => exact .ok mode

theorem syncTags_names (desired latest : Certificate) :
    (syncTags desired latest).hook.Confined (fun _ => True) fun e =>
      e.site = (syncTags desired latest).reportedSite := by
  simp only [hook, reportedSite, Certificate.syncTagsHook]
  cases latest.arn? with
  | none => exact .throw rfl
  | some arn =>
    have hsync := syncTags_confined arn desired.desiredTags latest.syncedTags
    exact .bind (.discard (hsync.mono (fun _ _ => trivial) fun _ h => h)) fun _ => .pure _

theorem observeTags_names (latest : Certificate) :
    (observeTags latest).hook.Confined (fun _ => True) fun e =>
      e.site = (observeTags latest).reportedSite := by
  simp only [hook, reportedSite, Certificate.observeTagsHook]
  cases latest.arn? with
  | none => exact .throw rfl
  | some arn =>
    have hlist := listTags_confined arn
    exact .bind (hlist.mono (fun _ _ => trivial) fun _ h => h) fun _ => .pure _

theorem hook_confined (o : Operation) :
    o.hook.Confined (fun _ => True) fun e => e.site = o.reportedSite := by
  cases o with
  | validate c => exact validate_names c
  | importing config c => exact Certificate.importHook_names
  | exporting config c =>
    exact (Certificate.exportHook_confined config c).mono (fun _ _ => trivial) fun _ h => h
  | syncTags desired latest => exact syncTags_names desired latest
  | observeTags latest => exact observeTags_names latest

variable {world : Collaborators σ} {o : Operation} {s t : Session σ} {e : HookError}

/-- Every error of an operation names the same site, and it is the operation's own one just if there
is no identifier that could stand in for it. -/
theorem hook_error_site (h : Session.run world o.hook s = (.error e, t)) :
    e.site = o.reportedSite ∧ (e.site = o.site ↔ o.NamesSubject) := by
  have hsite : e.site = o.reportedSite := Session.error_of_confined world o.hook_confined h
  rw [hsite]
  exact ⟨rfl, reportedSite_eq_iff o⟩

/-! ## A service that is overloaded -/

def throttled : Call → Disturbance := fun _ => { failure := some ⟨"throttled", []⟩ }

/-- A resource whose certificate the service knows. -/
def known : Certificate where
  metadata := { name := some "web" }
  spec := { domainName := some "example.com" }
  status := some { certificateArn := some "arn:web" }

theorem observing_known_fails :
    ∃ t, Session.run (World.collaborators throttled) (observeTags known).hook { world := {} } =
      (.error ⟨"list_tags", "arn:web", .retryable ⟨"throttled", []⟩⟩, t) := ⟨_, rfl⟩

theorem importing_throttled_fails :
    ∃ e t, Session.run (World.collaborators throttled) (importing {} Certificate.importing).hook
      { world := {} } = (.error e, t) := ⟨_, _, rfl⟩

/-- An import that fails names itself and its resource, and looking at tags does not. -/
theorem throttled_error_sites :
    (∃ e t, Session.run (World.collaborators throttled) (importing {} Certificate.importing).hook
        { world := {} } = (.error e, t) ∧ e.site = ⟨"import", "default/web"⟩) ∧
      ∃ e t, Session.run (World.collaborators throttled) (observeTags known).hook
        { world := {} } = (.error e, t) ∧ e.site = ⟨"list_tags", "arn:web"⟩ ∧
        e.site ≠ (observeTags known).site := by
  obtain ⟨e, t, himport⟩ := importing_throttled_fails
  obtain ⟨u, hobserve⟩ := observing_known_fails
  refine ⟨⟨e, t, himport, (hook_error_site himport).1⟩, _, u, hobserve, rfl, ?_⟩
  intro hsite
  exact nomatch (hook_error_site hobserve).2.mp hsite

/-- A remote failure is not reported under the name of the operation and the key of the resource. -/
theorem observing_known_misnamed :
    ¬∀ (o : Operation) (world : Collaborators World) (s t : Session World) (e : HookError),
      Session.run world o.hook s = (.error e, t) →
        e.operation = o.name ∧ e.resource = o.subject.resourceKey := by
  intro hall
  obtain ⟨t, hrun⟩ := observing_known_fails
  have hname : "list_tags" ≠ "observe_tags" := by decide
  exact hname (hall _ _ _ _ _ hrun).1

end Operation

end CertSync
