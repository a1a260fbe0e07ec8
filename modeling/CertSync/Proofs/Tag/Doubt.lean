import CertSync.Proofs.Tag.Convergence

/-!
# Syncs that go on after a failure

The desired tags may be edited before a sync that failed is run again. The next run compares them
with the tags that were synced last and not with what the failed run left, so it does not repair a
key where these two agree. Here is what a whole history of runs can leave behind.
-/

namespace CertSync

/-- The values that a key may have instead of the one in the status. -/
abbrev Doubts := String → Option String → Prop

namespace Doubts

/-- A run that failed may have changed any key that it was to change. -/
def afterFailure (doubts : Doubts) (desired synced : TagSet) : Doubts := fun key value =>
  doubts key value ∨ desired.get? key ≠ synced.get? key ∧ value = desired.get? key

def afterSuccess (doubts : Doubts) (removal : Removal) (desired synced : TagSet) : Doubts :=
  fun key value =>
    doubts key value ∧ value ≠ desired.get? key ∧
      removal.outcome (desired.get? key) (synced.get? key) value = value

end Doubts

namespace Certificate

variable {σ : Type} {removal : Removal} {remote : σ → TagSet} {world : Collaborators σ}
  {wanted latest updated : Certificate} {doubts : Doubts} {s t : Session σ}

/-- Runs of the tag hook one after the other, each with desired tags of its own. They begin with
the status saying what the tags are. A driver goes on with the resource that a run returned, and
with the old one if the run failed. -/
inductive SyncHistory (removal : Removal) (remote : σ → TagSet) :
    σ → Certificate → Doubts → Prop
  | start {w : σ} {latest : Certificate} (hstatus : remote w = latest.syncedTags) :
      SyncHistory removal remote w latest fun _ _ => False
  | failed {world : Collaborators σ} {wanted latest : Certificate} {doubts : Doubts}
      {s t : Session σ} {error : HookError}
      (hbefore : SyncHistory removal remote s.world latest doubts)
      (hworld : ServesTags removal remote world latest)
      (hrun : Session.run world (syncTagsHook wanted latest) s = (.error error, t)) :
      SyncHistory removal remote t.world latest
        (doubts.afterFailure wanted.desiredTags latest.syncedTags)
  | succeeded {world : Collaborators σ} {wanted latest updated : Certificate} {doubts : Doubts}
      {s t : Session σ} (hbefore : SyncHistory removal remote s.world latest doubts)
      (hworld : ServesTags removal remote world latest)
      (hrun : Session.run world (syncTagsHook wanted latest) s = (.ok updated, t)) :
      SyncHistory removal remote t.world updated
        (doubts.afterSuccess removal wanted.desiredTags latest.syncedTags)

/-- Every key is as the status says, or in doubt with the value it has. -/
def Accounted (remote : σ → TagSet) (w : σ) (latest : Certificate) (doubts : Doubts) : Prop :=
  ∀ key, (remote w).get? key = latest.syncedTags.get? key ∨ doubts key ((remote w).get? key)

/-! ## One run -/

theorem Accounted.failed {error : HookError} (h : Accounted remote s.world latest doubts)
    (hworld : ServesTags removal remote world latest)
    (hrun : Session.run world (syncTagsHook wanted latest) s = (.error error, t)) :
    Accounted remote t.world latest
      (doubts.afterFailure wanted.desiredTags latest.syncedTags) := by
  have htoward : Toward remote wanted.desiredTags latest.syncedTags s.world _ :=
    syncTagsHook_toward hworld s
  rw [hrun] at htoward
  intro key
  rcases htoward key with hkey | hkey
  · rw [hkey]
    exact (h key).imp_right .inl
  · exact .inr (.inr hkey)

theorem Accounted.succeeded (h : Accounted remote s.world latest doubts)
    (hworld : ServesTags removal remote world latest)
    (hrun : Session.run world (syncTagsHook wanted latest) s = (.ok updated, t)) :
    Accounted remote t.world updated
      (doubts.afterSuccess removal wanted.desiredTags latest.syncedTags) := by
  obtain ⟨rfl, hremote⟩ := syncTagsHook_ok hworld hrun
  intro key
  rw [syncedTags_withStatusTags, hremote, TagDiff.get?_applyTo]
  rcases h key with hkey | hdoubt
  · exact .inl (Removal.outcome_of_or (.inl hkey))
  -- A value in doubt is brought to the desired one or not touched.
  rcases removal.outcome_or (wanted.desiredTags.get? key) (latest.syncedTags.get? key)
    ((remote s.world).get? key) with ho | ho
  · exact .inl ho
  · by_cases hdesired : (remote s.world).get? key = wanted.desiredTags.get? key
    · exact .inl (ho.trans hdesired)
    · rw [ho]
      exact .inr ⟨hdoubt, hdesired, ho⟩

/-! ## A history -/

theorem SyncHistory.accounted {w : σ} (h : SyncHistory removal remote w latest doubts) :
    Accounted remote w latest doubts := by
  induction h with
  | start hstatus => exact fun key => .inl (by rw [hstatus])
  | failed _ hworld hrun ih => exact ih.failed hworld hrun
  | succeeded _ hworld hrun ih => exact ih.succeeded hworld hrun

/-- After a run that succeeds the status says the desired tags, and they are there but for the
values left in doubt: those that an earlier run was to bring about when it failed, and that no run
that succeeded has touched since. -/
theorem syncTagsHook_status (hhistory : SyncHistory removal remote s.world latest doubts)
    (hworld : ServesTags removal remote world latest)
    (hok : Session.run world (syncTagsHook wanted latest) s = (.ok updated, t)) :
    let left := doubts.afterSuccess removal wanted.desiredTags latest.syncedTags
    updated.syncedTags = wanted.desiredTags ∧
      (∀ key, (remote t.world).get? key ≠ wanted.desiredTags.get? key →
        left key ((remote t.world).get? key)) ∧
      ((∀ key value, ¬left key value) → remote t.world = wanted.desiredTags) := by
  intro left
  have hstatus : updated.syncedTags = wanted.desiredTags := by
    rw [(syncTagsHook_ok hworld hok).1, syncedTags_withStatusTags]
  have haccounted : ∀ key, (remote t.world).get? key = wanted.desiredTags.get? key ∨
      left key ((remote t.world).get? key) := by
    intro key
    rw [← hstatus]
    exact (hhistory.succeeded hworld hok).accounted key
  refine ⟨hstatus, ?_, ?_⟩
  · intro key hne
    exact (haccounted key).resolve_left hne
  · intro hnone
    apply TagSet.ext
    intro key
    exact (haccounted key).resolve_right (hnone key _)

def edited (tags : List Tag) : Certificate := { retagged with spec := { tags } }

/-- Where a sync stopped halfway: `a` is gone and `b` is not there. -/
def halfway : Session World :=
  (Session.run (World.collaborators withoutAdditions) (syncTagsHook retagged retagged)
    { world := { remoteTags := retagged.syncedTags } }).2

theorem halfway_history :
    SyncHistory .byKey World.remoteTags halfway.world retagged
      (Doubts.afterFailure (fun _ _ => False) retagged.desiredTags retagged.syncedTags) := by
  have hfailed : (Session.run (World.collaborators withoutAdditions)
      (syncTagsHook retagged retagged)
      { world := { remoteTags := retagged.syncedTags } }).1.toOption = none := by decide +kernel
  obtain ⟨error, hrun⟩ := Session.error_of_toOption hfailed
  exact .failed (.start rfl) (.of_arn retagged_arn (World.tagService _ _)) hrun

/-- An edit that gives new values to both keys of the sync that failed puts everything right. -/
theorem edited_status :
    let wanted := edited [⟨"a", some "3"⟩, ⟨"b", some "4"⟩]
    let next := Session.run (World.collaborators fun _ => {}) (syncTagsHook wanted retagged)
      { world := halfway.world }
    next.2.world.remoteTags = wanted.desiredTags := by
  intro wanted next
  have hrun : Session.run (World.collaborators fun _ => {}) (syncTagsHook wanted retagged)
      { world := halfway.world } =
        (.ok (retagged.withStatusTags wanted.desiredTags.toTags), next.2) :=
    Session.ok_of_toOption (by decide +kernel)
  have hstatus := syncTagsHook_status (s := { world := halfway.world }) halfway_history
    (.of_arn retagged_arn (World.tagService _ _)) hrun
  apply hstatus.2.2
  rintro key value ⟨hdoubt, hne, hout⟩
  have hsame : wanted.desiredTags.get? key = retagged.syncedTags.get? key :=
    Decidable.byContradiction fun hdiffer =>
      hne (hout.symm.trans (Removal.outcome_byKey hdiffer))
  have hchanged := (hdoubt.resolve_left id).1
  change (((∅ : TagSet).insert "a" "3").insert "b" "4").get? key =
    ((∅ : TagSet).insert "a" "1").get? key at hsame
  change ((∅ : TagSet).insert "b" "2").get? key ≠ ((∅ : TagSet).insert "a" "1").get? key at hchanged
  simp only [TagSet.get?_insert, TagSet.get?_empty] at hsame hchanged
  by_cases ha : "a" = key
  · subst ha
    simp at hsame
  · by_cases hb : "b" = key
    · simp [ha, hb] at hsame
    · simp [ha, hb] at hchanged

/-- The status can say a tag that is not there: the desired tags were edited back to those of the
status after `a` was removed for a sync that then failed. -/
theorem edited_back_lacks_tag :
    ¬∀ (wanted latest updated : Certificate) (doubts : Doubts) (world : Collaborators World)
      (s t : Session World), SyncHistory .byKey World.remoteTags s.world latest doubts →
      ServesTags .byKey World.remoteTags world latest →
      Session.run world (syncTagsHook wanted latest) s = (.ok updated, t) →
      t.world.remoteTags = wanted.desiredTags ∧ t.world.remoteTags = updated.syncedTags := by
  intro hall
  let wanted := edited [⟨"a", some "1"⟩]
  have hnext := hall wanted retagged (retagged.withStatusTags wanted.desiredTags.toTags) _
    (World.collaborators fun _ => {}) { world := halfway.world } _ halfway_history
    (.of_arn retagged_arn (World.tagService _ _))
    (Session.ok_of_toOption (by decide +kernel))
  revert hnext
  decide +kernel

end Certificate

end CertSync
