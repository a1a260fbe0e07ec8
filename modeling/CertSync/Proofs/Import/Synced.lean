import CertSync.Proofs.Import.Course
import CertSync.Proofs.Import.Repetition
import CertSync.Proofs.Tag.Minimality
import CertSync.Proofs.Tag.Observation

/-!
# Tags after an import

An import puts tags on the certificate that it makes, and the status says which tags a certificate
has. The two are the same unless the status had other tags before: these are kept, and the next sync
starts from them.
-/

namespace CertSync

variable {σ : Type} {removal : Removal} {arn : String} {remote : String → σ → TagSet}
  {world syncing : Collaborators σ} {s t : Session σ}

/-! ## The service -/

/-- A certificate that is imported has the tags that came with the request. `remote` has the tags of
each certificate in a state of the service. -/
def TagsImports (remote : String → σ → TagSet) (world : Collaborators σ) : Prop :=
  ∀ request w arn, (world (.service (.importCertificate request)) w).1.ending = .returns arn →
    remote arn (world (.service (.importCertificate request)) w).2 = request.tags

theorem World.tagsImports (disturb : Call → Disturbance) :
    TagsImports (fun _ => World.remoteTags) (World.collaborators disturb) := fun request w _ h =>
  (leaves disturb (.service (.importCertificate request)) w World.remoteTags).of_returns h

/-- No call for the tags of the certificate fails, hangs or is cancelled. -/
structure TagsUndisturbed (arn : String) (world : Collaborators σ) : Prop where
  removes (tags : TagSet) (w : σ) :
    (world (.service (.removeTags arn tags)) w).1 = ⟨.returns (), false⟩
  adds (tags : TagSet) (w : σ) :
    (world (.service (.addTags arn tags)) w).1 = ⟨.returns (), false⟩

theorem World.tagsUndisturbed (arn : String) :
    TagsUndisturbed arn (World.collaborators fun _ => {}) where
  removes _ _ := rfl
  adds _ _ := rfl

/-! ## A sync that nothing disturbs -/

theorem service_succeeds {c : ServiceCall} {a : c.Answer} (site : Hook.Site)
    (text : String → String) (keys : List String) (hs : s.cancelled = false)
    (hcall : (world (.service c) s.world).1 = ⟨.returns a, false⟩) :
    ∃ t, Session.run world (do
        keys.forM fun key => Hook.debug (text key)
        site.service c) s = (.ok a, t) ∧ t.cancelled = false := by
  obtain ⟨log, hlog⟩ := run_debugs world text keys s
  rw [Session.run_bind_ok hlog]
  refine ⟨_, Session.service_of_returns hs (by rw [hcall]), ?_⟩
  exact congrArg Reaction.cancels hcall

theorem removeTags_succeeds (h : TagsUndisturbed arn world) (site : Hook.Site) (tags : TagSet)
    (hs : s.cancelled = false) :
    ∃ t, Session.run world (removeTags site arn tags) s = (.ok (), t) ∧ t.cancelled = false := by
  cases hempty : tags.isEmpty with
  | true =>
    rw [removeTags_of_isEmpty hempty]
    exact ⟨s, rfl, hs⟩
  | false =>
    rw [removeTags_of_not_isEmpty hempty]
    exact service_succeeds site _ _ hs (h.removes tags s.world)

theorem addTags_succeeds (h : TagsUndisturbed arn world) (site : Hook.Site) (tags : TagSet)
    (hs : s.cancelled = false) :
    ∃ t, Session.run world (addTags site arn tags) s = (.ok (), t) ∧ t.cancelled = false := by
  cases hempty : tags.isEmpty with
  | true =>
    rw [addTags_of_isEmpty hempty]
    exact ⟨s, rfl, hs⟩
  | false =>
    rw [addTags_of_not_isEmpty hempty]
    exact service_succeeds site _ _ hs (h.adds tags s.world)

theorem ImportRequest.Carries.tags_eq {request : ImportRequest} {c : Certificate}
    {certificate privateKey : String} {chain : Option String}
    (h : request.Carries c certificate privateKey chain) : request.tags = c.desiredTags :=
  TagSet.ext fun key => (h.tags key).trans (TagSet.get?_ofTags c.spec.tags key).symm

namespace Certificate

variable {config : Config} {c latest : Certificate} {outcome : ImportOutcome}

theorem syncTagsHook_succeeds (wanted : Certificate) (h : TagsUndisturbed arn world)
    (harn : latest.arn? = some arn) (hs : s.cancelled = false) :
    ∃ updated t, Session.run world (syncTagsHook wanted latest) s = (.ok updated, t) := by
  let diff := TagDiff.between wanted.desiredTags latest.syncedTags
  let site : Hook.Site := ⟨"sync_tags", arn⟩
  obtain ⟨t1, hlog, halike⟩ := Session.exists_run_log world (.span "certificate.tags.sync" [
    ("certificate.arn", .text arn),
    ("tags.add", .number diff.toAdd.size),
    ("tags.remove", .number diff.toRemove.size)]) s
  obtain ⟨t2, hremove, ht2⟩ := removeTags_succeeds h site diff.toRemove (halike.cancelled.trans hs)
  obtain ⟨t3, hadd, -⟩ := addTags_succeeds h site diff.toAdd ht2
  have hsync : Session.run world (syncTags arn wanted.desiredTags latest.syncedTags) s =
      (.ok diff, t3) := by
    unfold syncTags
    rw [Session.run_bind_ok hlog, Session.run_bind_ok hremove, Session.run_bind_ok hadd]
    rfl
  have hdiscard : Session.run world
      (discard (syncTags arn wanted.desiredTags latest.syncedTags)) s = _ :=
    Session.run_discard _ s
  rw [hsync] at hdiscard
  unfold syncTagsHook
  rw [harn]
  exact ⟨_, _, Session.run_bind_ok hdiscard _⟩

theorem syncs_iff {remote : σ → TagSet} (hservice : TagService removal arn remote syncing)
    (hcalm : TagsUndisturbed arn syncing) (harn : latest.arn? = some arn) (w : σ) :
    (∀ (wanted : Certificate) (u : Session σ), u.world = w → u.cancelled = false →
      ∃ updated v, Session.run syncing (syncTagsHook wanted latest) u = (.ok updated, v) ∧
        remote v.world = wanted.desiredTags) ↔
      latest.syncedTags = remote w := by
  constructor
  · intro hall
    -- A sync of the tags that the status has calls nobody.
    let wanted : Certificate := { latest with spec := { latest.spec with
      tags := (latest.status.map (·.tags)).getD [] } }
    have hsettled : latest.syncedTags = wanted.desiredTags := rfl
    obtain ⟨updated, v, hrun, hremote⟩ := hall wanted { world := w } rfl rfl
    obtain ⟨log, hlog⟩ := run_syncTagsHook_settled harn hsettled syncing { world := w }
    cases hlog.symm.trans hrun
    exact hsettled.trans hremote.symm
  · intro hsynced wanted u hu hcancelled
    obtain ⟨updated, v, hrun⟩ := syncTagsHook_succeeds wanted hcalm harn hcancelled
    refine ⟨updated, v, hrun, ?_⟩
    rw [(syncTagsHook_ok (.of_arn harn hservice) hrun).2, hsynced, hu]
    exact TagDiff.applyTo_observed

/-! ## The import -/

theorem syncedTags_imported (c : Certificate) (arn : String) :
    (c.imported arn).syncedTags =
      if (c.status.getD {}).tags = [] then c.desiredTags else c.syncedTags := by
  cases hstatus : c.status with
  | none => simp [imported, mapStatus, syncedTags, desiredTags, hstatus]
  | some status =>
    by_cases htags : status.tags = [] <;>
      simp [imported, mapStatus, syncedTags, desiredTags, hstatus, htags]

theorem arn?_imported (c : Certificate) (harn : arn ≠ "") : (c.imported arn).arn? = some arn := by
  simp [imported, mapStatus, arn?, nonEmpty, harn]

theorem importHook_sends (hmode : c.mode = .ok .imported)
    (hok : Session.run world (importHook config c) s = (.ok (some outcome), t)) :
    ∃ lookups request w, ∃ arn : String,
      t.calls = s.calls ++ lookups ++ [importCall request] ∧
      (∀ call ∈ lookups, call.imports = false) ∧
      (world (importCall request) w).1.ending = .returns arn ∧
      t.world = (world (importCall request) w).2 ∧
      request.tags = c.desiredTags ∧ outcome.resource = c.imported arn := by
  obtain ⟨privateKey, hkey⟩ := privateKey_of_imported hmode
  cases hcertificate : c.spec.certificate with
  | none =>
    obtain ⟨u, hu, -⟩ := Session.run_of_ends world (importHook_ends hmode hcertificate) s
    cases hu.symm.trans hok
  | some certificate =>
    obtain ⟨made, hcalls, hcourse⟩ := importHook_takes hmode hcertificate hkey hok
    obtain ⟨gathered, request, w, arn, rfl, hgathered, ⟨_, _, _, hcarries⟩, hanswer, hworld,
      hmerge⟩ := hcourse.of_ok
    rw [merge_completed] at hmerge
    cases hmerge
    refine ⟨gathered.map Prod.fst, request, w, arn, ?_, ?_, hanswer, hworld, hcarries.tags_eq, rfl⟩
    · rw [hcalls, List.map_append, List.append_assoc]
      rfl
    · intro call hcall
      rw [hgathered] at hcall
      obtain ⟨material, -, rfl⟩ := List.mem_map.mp hcall
      rfl

/-- What an import leaves behind: the tags of the resource are on the certificate. The status of the
resource that is returned says so just if it had no tags before, or the same ones. Only then does
every later sync of that resource, if nothing disturbs it, leave the tags that are desired. -/
theorem importHook_synced_iff (hmode : c.mode = .ok .imported) (hremote : TagsImports remote world)
    (hok : Session.run world (importHook config c) s = (.ok (some outcome), t)) :
    ∃ lookups request, ∃ arn : String,
      t.calls = s.calls ++ lookups ++ [importCall request] ∧
      (∀ call ∈ lookups, call.imports = false) ∧
      outcome.resource = c.imported arn ∧ remote arn t.world = request.tags ∧
      (outcome.resource.syncedTags = request.tags ↔
        (c.status.getD {}).tags = [] ∨ c.syncedTags = request.tags) ∧
      (arn ≠ "" → ∀ (removal : Removal) (syncing : Collaborators σ),
        TagService removal arn (remote arn) syncing → TagsUndisturbed arn syncing →
        ((∀ (wanted : Certificate) (u : Session σ), u.world = t.world → u.cancelled = false →
            ∃ updated v,
              Session.run syncing (syncTagsHook wanted outcome.resource) u = (.ok updated, v) ∧
              remote arn v.world = wanted.desiredTags) ↔
          (c.status.getD {}).tags = [] ∨ c.syncedTags = request.tags)) := by
  obtain ⟨lookups, request, w, arn, hcalls, hlookups, hanswer, hworld, htags, hresource⟩ :=
    importHook_sends hmode hok
  have hsent : remote arn t.world = request.tags := by
    rw [hworld]
    exact hremote request w arn hanswer
  have hsynced : outcome.resource.syncedTags = request.tags ↔
      (c.status.getD {}).tags = [] ∨ c.syncedTags = request.tags := by
    rw [hresource, syncedTags_imported, ← htags]
    by_cases hempty : (c.status.getD {}).tags = [] <;> simp [hempty]
  refine ⟨lookups, request, arn, hcalls, hlookups, hresource, hsent, hsynced, ?_⟩
  intro harn removal syncing hservice hcalm
  have harn' : outcome.resource.arn? = some arn := by rw [hresource, arn?_imported c harn]
  rw [syncs_iff hservice hcalm harn', hsent, hsynced]

/-- A resource that is to be imported with the tag `b`, whose status has these tags from before. -/
def tagging (before : List Tag) : Certificate :=
  { importing with
    spec := { importing.spec with tags := [⟨"b", some "2"⟩] }
    status := some { tags := before } }

theorem tagging_synced :
    let calm := World.collaborators fun _ => {}
    let imported := (tagging []).imported "arn:web"
    ∃ t, Session.run calm (importHook {} (tagging [])) { world := importWorld } =
        (.ok (some ⟨imported, true⟩), t) ∧
      ∀ (wanted : Certificate) (u : Session World), u.world = t.world → u.cancelled = false →
        ∃ updated v, Session.run calm (syncTagsHook wanted imported) u = (.ok updated, v) ∧
          v.world.remoteTags = wanted.desiredTags := by
  intro calm imported
  have hok : Session.run calm (importHook {} (tagging [])) { world := importWorld } =
      (.ok (some ⟨imported, true⟩), _) := Session.ok_of_toOption (by decide +kernel)
  obtain ⟨_, _, arn, -, -, hresource, -, -, hsyncs⟩ :=
    importHook_synced_iff rfl (World.tagsImports fun _ => {}) hok
  have harn : "arn:web" = arn :=
    Option.some.inj (congrArg (fun c : Certificate => c.status.bind (·.certificateArn)) hresource)
  subst harn
  refine ⟨_, hok, ?_⟩
  exact (hsyncs (by decide +kernel) .byKey calm (World.tagService _ _)
    (World.tagsUndisturbed _)).mpr (.inl rfl)

/-- With other tags in its status the returned resource does not tell what was sent, and a sync that
asks for these other tags leaves those that were sent. -/
theorem tagging_keeps_old_tags :
    ¬(∀ (config : Config) (c : Certificate) (outcome : ImportOutcome) (s t : Session World)
      (request : ImportRequest), c.mode = .ok .imported →
      Session.run (World.collaborators fun _ => {}) (importHook config c) s =
        (.ok (some outcome), t) →
      importCall request ∈ t.calls → outcome.resource.syncedTags = request.tags) ∧
    ¬∀ (config : Config) (c wanted : Certificate) (outcome : ImportOutcome) (s t : Session World),
      c.mode = .ok .imported →
      Session.run (World.collaborators fun _ => {}) (importHook config c) s =
        (.ok (some outcome), t) →
      (Session.run (World.collaborators fun _ => {}) (syncTagsHook wanted outcome.resource)
        { world := t.world }).2.world.remoteTags = wanted.desiredTags := by
  let before : List Tag := [⟨"a", some "1"⟩]
  have hok : Session.run (World.collaborators fun _ => {}) (importHook {} (tagging before))
      { world := importWorld } = (.ok (some ⟨(tagging before).imported "arn:web", true⟩), _) :=
    Session.ok_of_toOption (by decide +kernel)
  constructor
  · intro hall
    have h := hall {} (tagging before) _ _ _
      ⟨Bytes.ofText "CERT", none, Bytes.ofText "KEY", .ofList [("b", "2")]⟩ rfl hok
      (by decide +kernel)
    revert h
    decide +kernel
  · intro hall
    have h := hall {} (tagging before) { importing with spec := { tags := before } } _ _ _ rfl hok
    revert h
    decide +kernel

end Certificate

end CertSync
