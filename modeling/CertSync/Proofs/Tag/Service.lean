import CertSync.Hook.Tags
import CertSync.Proofs.Session.Memory
import CertSync.Proofs.Tag.Diff

/-!
# A run of the tag hook

What the certificate service has to keep to for the tags of one certificate, and what one run of
the hook then does to them, whether it succeeds or not.
-/

namespace CertSync

variable {σ : Type} {removal : Removal} {arn : String} {remote : σ → TagSet}
  {world : Collaborators σ} {desired observed : TagSet}

/-- The service as far as the tags of one certificate go: `remote` is what they are in a state of
it. A call that fails may have had its effect all the same. -/
structure TagService (removal : Removal) (arn : String) (remote : σ → TagSet)
    (world : Collaborators σ) : Prop where
  removes (tags : TagSet) (w : σ) :
    (world (.service (.removeTags arn tags)) w).1.Leaves (remote w)
      ((remote w).without removal tags) (remote (world (.service (.removeTags arn tags)) w).2)
  adds (tags : TagSet) (w : σ) :
    (world (.service (.addTags arn tags)) w).1.Leaves (remote w)
      ((remote w).overlay tags) (remote (world (.service (.addTags arn tags)) w).2)

/-! ## The service in memory -/

theorem World.foldl_erase_keys (tags removed : TagSet) :
    removed.keys.foldl TagSet.erase tags = tags.without .byKey removed := by
  apply TagSet.ext
  intro key
  rw [TagSet.get?_eraseList, TagSet.get?_without_byKey]
  simp only [TagSet.mem_keys]

theorem World.tagService (disturb : Call → Disturbance) (arn : String) :
    TagService .byKey arn World.remoteTags (World.collaborators disturb) where
  removes tags w := by
    rw [← foldl_erase_keys]
    exact leaves disturb (.service (.removeTags arn tags)) w World.remoteTags
  adds tags w := leaves disturb (.service (.addTags arn tags)) w World.remoteTags

/-! ## The two calls -/

theorem removeTags_of_isEmpty {site : Hook.Site} {tags : TagSet} (h : tags.isEmpty = true) :
    removeTags site arn tags = pure () := by
  simp [removeTags, h]

theorem removeTags_of_not_isEmpty {site : Hook.Site} {tags : TagSet} (h : tags.isEmpty = false) :
    removeTags site arn tags = (do
      tags.keys.forM fun key => Hook.debug s!"removing tag from resource: {key}"
      site.service (.removeTags arn tags)) := by
  rw [removeTags, h]
  rfl

theorem addTags_of_isEmpty {site : Hook.Site} {tags : TagSet} (h : tags.isEmpty = true) :
    addTags site arn tags = pure () := by
  simp [addTags, h]

theorem addTags_of_not_isEmpty {site : Hook.Site} {tags : TagSet} (h : tags.isEmpty = false) :
    addTags site arn tags = (do
      tags.keys.forM fun key => Hook.debug s!"adding tag to resource: {key}"
      site.service (.addTags arn tags)) := by
  rw [addTags, h]
  rfl

/-! ## However a run ends -/

/-- Each key is as it was, or is one that was to change and has. -/
def Toward (remote : σ → TagSet) (desired observed : TagSet) (before after : σ) : Prop :=
  ∀ key, (remote after).get? key = (remote before).get? key ∨
    desired.get? key ≠ observed.get? key ∧ (remote after).get? key = desired.get? key

instance : IsPreorder σ (Toward remote desired observed) where
  refl _ _ := .inl rfl
  trans a b c hab hbc key := by
    rcases hbc key with hc | hc
    · rw [hc]
      exact hab key
    · exact .inr hc

theorem Reaction.Leaves.toward {α : Type} {reaction : Reaction α} {before after : σ}
    {effect : TagSet} (h : reaction.Leaves (remote before) effect (remote after))
    (heffect : ∀ key, effect.get? key = (remote before).get? key ∨
      desired.get? key ≠ observed.get? key ∧ effect.get? key = desired.get? key) :
    Toward remote desired observed before after := by
  intro key
  rcases h with h | ⟨h, _⟩
  · rw [h]
    exact heffect key
  · exact .inl (by rw [h])

theorem removeTags_toward (h : TagService removal arn remote world) (site : Hook.Site) :
    Within world (Toward remote desired observed)
      (removeTags site arn (TagDiff.between desired observed).toRemove) := by
  cases hempty : (TagDiff.between desired observed).toRemove.isEmpty with
  | true =>
    rw [removeTags_of_isEmpty hempty]
    exact .pure _
  | false =>
    rw [removeTags_of_not_isEmpty hempty]
    refine .bind (.forM fun _ => .log _) fun _ => .service fun w => (h.removes _ w).toward ?_
    intro key
    cases ho : (TagDiff.between desired observed).toRemove.get? key with
    | none => exact .inl (TagSet.get?_without_of_none ho)
    | some value =>
      rw [TagDiff.get?_toRemove] at ho
      rcases TagSet.get?_without_or removal (remote w) (TagDiff.between desired observed).toRemove
        key with hw | hw
      · exact .inl hw
      · cases hd : desired.get? key with
        | some _ => simp [hd] at ho
        | none =>
          have hsome : observed.get? key = some value := by simpa [hd] using ho
          exact .inr ⟨by simp [hsome], hw⟩

theorem addTags_toward (h : TagService removal arn remote world) (site : Hook.Site) :
    Within world (Toward remote desired observed)
      (addTags site arn (TagDiff.between desired observed).toAdd) := by
  cases hempty : (TagDiff.between desired observed).toAdd.isEmpty with
  | true =>
    rw [addTags_of_isEmpty hempty]
    exact .pure _
  | false =>
    rw [addTags_of_not_isEmpty hempty]
    refine .bind (.forM fun _ => .log _) fun _ => .service fun w => (h.adds _ w).toward ?_
    intro key
    rw [TagSet.get?_overlay, TagDiff.get?_toAdd]
    by_cases hsame : desired.get? key = observed.get? key
    · exact .inl (by rw [if_pos hsame, Option.none_or])
    · rw [if_neg hsame]
      cases hd : desired.get? key with
      | none => exact .inl rfl
      | some value => exact .inr ⟨hd ▸ hsame, rfl⟩

theorem syncTags_toward (h : TagService removal arn remote world) :
    Within world (Toward remote desired observed) (syncTags arn desired observed) :=
  .bind (.log _) fun _ => .bind (removeTags_toward h _) fun _ =>
    .bind (addTags_toward h _) fun _ => .pure _

/-! ## Runs that succeed -/

variable {s t : Session σ}

theorem run_debugs (world : Collaborators σ) (text : String → String) (keys : List String)
    (s : Session σ) :
    ∃ log, Session.run world (keys.forM fun key => Hook.debug (text key)) s =
      (.ok (), { s with log }) := by
  induction keys generalizing s with
  | nil => exact ⟨s.log, rfl⟩
  | cons key rest ih =>
    obtain ⟨log, hlog⟩ := ih { s with log := s.log ++ [.message .debug (text key)] }
    exact ⟨log, (Session.run_bind_ok (Session.run_message (text key) s).1 _).trans hlog⟩

theorem removeTags_ok (h : TagService removal arn remote world) {site : Hook.Site} {tags : TagSet}
    {u : Unit} (hok : Session.run world (removeTags site arn tags) s = (.ok u, t)) :
    remote t.world = (remote s.world).without removal tags := by
  cases hempty : tags.isEmpty with
  | true =>
    rw [removeTags_of_isEmpty hempty] at hok
    obtain ⟨-, rfl⟩ := Prod.mk.inj hok
    apply TagSet.ext
    intro key
    refine (TagSet.get?_without_of_none ?_).symm
    rw [(TagSet.isEmpty_iff tags).mp hempty, TagSet.get?_empty]
  | false =>
    rw [removeTags_of_not_isEmpty hempty] at hok
    obtain ⟨_, s1, hdebug, hservice⟩ := Session.bind_ok hok
    obtain ⟨log, hlog⟩ := run_debugs world
      (fun key => s!"removing tag from resource: {key}") tags.keys s
    obtain ⟨-, rfl⟩ := Prod.mk.inj (hlog.symm.trans hdebug)
    obtain ⟨-, hending, rfl⟩ := Session.service_ok hservice
    exact (h.removes tags s.world).of_returns hending

theorem addTags_ok (h : TagService removal arn remote world) {site : Hook.Site} {tags : TagSet}
    {u : Unit} (hok : Session.run world (addTags site arn tags) s = (.ok u, t)) :
    remote t.world = (remote s.world).overlay tags := by
  cases hempty : tags.isEmpty with
  | true =>
    rw [addTags_of_isEmpty hempty] at hok
    obtain ⟨-, rfl⟩ := Prod.mk.inj hok
    rw [(TagSet.isEmpty_iff tags).mp hempty, TagSet.overlay_empty]
  | false =>
    rw [addTags_of_not_isEmpty hempty] at hok
    obtain ⟨_, s1, hdebug, hservice⟩ := Session.bind_ok hok
    obtain ⟨log, hlog⟩ := run_debugs world
      (fun key => s!"adding tag to resource: {key}") tags.keys s
    obtain ⟨-, rfl⟩ := Prod.mk.inj (hlog.symm.trans hdebug)
    obtain ⟨-, hending, rfl⟩ := Session.service_ok hservice
    exact (h.adds tags s.world).of_returns hending

theorem syncTags_ok (h : TagService removal arn remote world) {diff : TagDiff}
    (hok : Session.run world (syncTags arn desired observed) s = (.ok diff, t)) :
    diff = TagDiff.between desired observed ∧
      remote t.world = diff.applyTo removal (remote s.world) := by
  unfold syncTags at hok
  rw [Session.run_bind_ok (Session.run_log _ s)] at hok
  obtain ⟨_, s1, hremove, hok⟩ := Session.bind_ok hok
  obtain ⟨_, s2, hadd, hok⟩ := Session.bind_ok hok
  obtain ⟨hdiff, rfl⟩ := Prod.mk.inj hok
  cases hdiff
  refine ⟨rfl, ?_⟩
  rw [addTags_ok h hadd, removeTags_ok h hremove]
  rfl

/-! ## The hook -/

namespace Certificate

variable {wanted latest updated : Certificate}

/-- The service keeps the tags of the certificate that the resource is of, if there is one yet. -/
def ServesTags (removal : Removal) (remote : σ → TagSet) (world : Collaborators σ)
    (c : Certificate) : Prop :=
  ∀ arn, c.arn? = some arn → TagService removal arn remote world

theorem ServesTags.of_arn (harn : latest.arn? = some arn)
    (h : TagService removal arn remote world) : ServesTags removal remote world latest := by
  intro other hother
  rw [harn] at hother
  cases hother
  exact h

theorem syncTagsHook_toward (h : ServesTags removal remote world latest) :
    Within world (Toward remote wanted.desiredTags latest.syncedTags)
      (syncTagsHook wanted latest) := by
  unfold syncTagsHook
  split
  · exact .throw _
  · rename_i arn harn
    exact .bind (.discard (syncTags_toward (h arn harn))) fun _ => .pure _

theorem syncTagsHook_ok (h : ServesTags removal remote world latest)
    (hok : Session.run world (syncTagsHook wanted latest) s = (.ok updated, t)) :
    updated = latest.withStatusTags wanted.desiredTags.toTags ∧
      remote t.world = (TagDiff.between wanted.desiredTags latest.syncedTags).applyTo removal
        (remote s.world) := by
  unfold syncTagsHook at hok
  split at hok
  · cases hok
  rename_i arn harn
  obtain ⟨_, s1, hsync, hok⟩ := Session.bind_ok hok
  obtain ⟨hupdated, rfl⟩ := Prod.mk.inj hok
  cases hupdated
  rw [Session.run_discard] at hsync
  rcases hr : Session.run world (syncTags arn wanted.desiredTags latest.syncedTags) s
    with ⟨_ | diff, s2⟩
  · simp [hr, Except.map] at hsync
  · obtain ⟨rfl, hremote⟩ := syncTags_ok (h arn harn) hr
    rw [hr] at hsync
    obtain ⟨-, rfl⟩ := Prod.mk.inj hsync
    exact ⟨rfl, hremote⟩

theorem syncedTags_withStatusTags (c : Certificate) (tags : TagSet) :
    (c.withStatusTags tags.toTags).syncedTags = tags :=
  TagSet.ofTags_toTags tags

end Certificate

end CertSync
