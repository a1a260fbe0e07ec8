import CertSync.Proofs.Tag.Convergence

/-!
# Syncs of what was observed

The status may say anything about the tags. Once they have been observed it says what they are, and
a sync that starts from there leaves the desired tags, whatever they were before. After that there
is nothing left to sync.
-/

namespace CertSync

/-! ## Lists of tags -/

/-- The list has each tag of the set once, with its value, in the order of the keys. -/
structure TagSet.ListedBy (tags : TagSet) (list : List Tag) : Prop where
  ordered : (list.map Tag.key).Pairwise (· < ·)
  mem_iff (tag : Tag) : tag ∈ list ↔ ∃ value, tag.value = some value ∧ tags.get? tag.key = some value

theorem TagSet.toTags_lists (tags : TagSet) : tags.ListedBy tags.toTags where
  ordered := by
    have hkeys : tags.toTags.map Tag.key = tags.keys := by
      simp [toTags, toList, keys, Function.comp_def]
    rw [hkeys]
    refine Std.ExtTreeMap.ordered_keys.imp fun h => ?_
    exact compareOfLessAndEq_eq_lt.mp h
  mem_iff tag := by
    simp only [toTags, List.mem_map, Prod.exists, mem_toList]
    constructor
    · rintro ⟨key, value, hvalue, rfl⟩
      exact ⟨value, rfl, hvalue⟩
    · rintro ⟨value, hvalue, hkey⟩
      exact ⟨tag.key, value, hkey, by cases tag; cases hvalue; rfl⟩

/-! ## Nothing to do -/

theorem TagDiff.between_self (tags : TagSet) : between tags tags = ⟨∅, ∅⟩ := by
  have hadd : (between tags tags).toAdd = ∅ := TagSet.ext fun key => by
    rw [get?_toAdd, if_pos rfl, TagSet.get?_empty]
  have hremove : (between tags tags).toRemove = ∅ := TagSet.ext fun key => by
    rw [get?_toRemove, TagSet.get?_empty]
    cases tags.get? key <;> rfl
  rw [show between tags tags = ⟨(between tags tags).toAdd, (between tags tags).toRemove⟩ from rfl,
    hadd, hremove]

variable {σ : Type} {removal : Removal} {arn : String} {remote : σ → TagSet}
  {world : Collaborators σ} {s t : Session σ}

theorem run_syncTags_self (world : Collaborators σ) (arn : String) (tags : TagSet)
    (s : Session σ) :
    ∃ log, Session.run world (syncTags arn tags tags) s =
      (.ok (TagDiff.between tags tags), { s with log }) := by
  have hempty : (∅ : TagSet).isEmpty = true := (TagSet.isEmpty_iff ∅).mpr rfl
  unfold syncTags
  simp only [TagDiff.between_self, removeTags_of_isEmpty hempty, addTags_of_isEmpty hempty]
  exact ⟨_, rfl⟩

/-! ## Observing -/

/-- The service answers with the tags of the certificate, and does not change them. -/
structure TagListing (arn : String) (remote : σ → TagSet) (world : Collaborators σ) : Prop where
  lists {w : σ} {tags : TagSet}
    (h : (world (.service (.listTags arn)) w).1.ending = .returns tags) : tags = remote w
  keeps (w : σ) : remote (world (.service (.listTags arn)) w).2 = remote w

theorem World.tagListing (disturb : Call → Disturbance) (arn : String) :
    TagListing arn World.remoteTags (World.collaborators disturb) where
  lists h := (Except.ok.inj (answer_of_returns h)).symm
  keeps w := (leaves disturb (.service (.listTags arn)) w World.remoteTags).elim id (·.1)

namespace Certificate

variable {wanted latest observed updated : Certificate}

theorem observeTagsHook_ok (harn : latest.arn? = some arn) (hworld : TagListing arn remote world)
    (hok : Session.run world (observeTagsHook latest) s = (.ok observed, t)) :
    observed = latest.withStatusTags (remote s.world).toTags ∧ remote t.world = remote s.world := by
  unfold observeTagsHook at hok
  rw [harn] at hok
  obtain ⟨tags, s1, hlist, hok⟩ := Session.bind_ok hok
  obtain ⟨-, hending, rfl⟩ := Session.service_ok hlist
  obtain ⟨hobserved, rfl⟩ := Prod.mk.inj hok
  cases hobserved
  rw [hworld.lists hending]
  exact ⟨rfl, hworld.keeps s.world⟩

theorem withStatusTags_of_arn (harn : latest.arn? = some arn) (tags : List Tag) :
    latest.withStatusTags tags =
      { latest with status := latest.status.map fun status => { status with tags } } := by
  cases hstatus : latest.status with
  | none => simp [arn?, hstatus, nonEmpty] at harn
  | some status => simp [withStatusTags, mapStatus, hstatus]

theorem arn?_withStatusTags (c : Certificate) (tags : List Tag) :
    (c.withStatusTags tags).arn? = c.arn? := by
  cases hstatus : c.status <;> simp [withStatusTags, mapStatus, arn?, hstatus]

theorem withStatusTags_withStatusTags (c : Certificate) (tags tags' : List Tag) :
    (c.withStatusTags tags).withStatusTags tags' = c.withStatusTags tags' := rfl

theorem run_syncTagsHook_settled (harn : latest.arn? = some arn)
    (hsettled : latest.syncedTags = wanted.desiredTags) (world : Collaborators σ) (s : Session σ) :
    ∃ log, Session.run world (syncTagsHook wanted latest) s =
      (.ok (latest.withStatusTags wanted.desiredTags.toTags), { s with log }) := by
  obtain ⟨log, hlog⟩ := run_syncTags_self world arn wanted.desiredTags s
  unfold syncTagsHook
  rw [harn, hsettled]
  refine ⟨log, ?_⟩
  have hdiscard : Session.run world (discard (syncTags arn wanted.desiredTags wanted.desiredTags))
      s = _ := Session.run_discard _ s
  rw [hlog] at hdiscard
  exact Session.run_bind_ok hdiscard _

/-- However wrong the status was about the tags, observing and then syncing them leaves the desired
ones. The status then lists these, and a sync that follows has nothing to call for. -/
theorem observed_sync_heals (harn : latest.arn? = some arn) {observing syncing : Collaborators σ}
    (hlisting : TagListing arn remote observing) (hservice : TagService removal arn remote syncing)
    {u v : Session σ}
    (hobserve : Session.run observing (observeTagsHook latest) s = (.ok observed, t))
    (hnext : u.world = t.world)
    (hsync : Session.run syncing (syncTagsHook wanted observed) u = (.ok updated, v)) :
    remote v.world = wanted.desiredTags ∧
      (∃ tags, wanted.desiredTags.ListedBy tags ∧ updated =
        { latest with status := latest.status.map fun status => { status with tags } }) ∧
      ∀ (world : Collaborators σ) (w : Session σ),
        ∃ log, Session.run world (syncTagsHook wanted updated) w = (.ok updated, { w with log }) := by
  obtain ⟨rfl, hkept⟩ := observeTagsHook_ok harn hlisting hobserve
  have harn' : (latest.withStatusTags (remote s.world).toTags).arn? = some arn :=
    (arn?_withStatusTags _ _).trans harn
  obtain ⟨rfl, hremote⟩ := syncTagsHook_ok (.of_arn harn' hservice) hsync
  rw [withStatusTags_withStatusTags]
  refine ⟨?_, ⟨_, TagSet.toTags_lists _, withStatusTags_of_arn harn _⟩, fun world w => ?_⟩
  · -- The sync starts from what there is, so every key is as the status says.
    rw [hremote, syncedTags_withStatusTags, hnext, hkept]
    exact (MidSync.refl _ _).applyTo_eq
  · exact run_syncTagsHook_settled ((arn?_withStatusTags _ _).trans harn)
      (syncedTags_withStatusTags _ _) world w

/-- A resource whose status is wrong about its tags, and repeats one of them. -/
def drifted : Certificate where
  metadata := {}
  spec := { tags := [⟨"b", some "2"⟩, ⟨"a", none⟩, ⟨"b", some "3"⟩] }
  status := some {
    certificateArn := some "arn:drifted"
    tags := [⟨"z", none⟩, ⟨"b", some "3"⟩, ⟨"z", some "1"⟩] }

theorem drifted_heals :
    let calm := World.collaborators fun _ => {}
    let before : World := { remoteTags := .ofList [("x", "9"), ("b", "2")] }
    let listed := drifted.withStatusTags [⟨"b", some "2"⟩, ⟨"x", some "9"⟩]
    let synced := drifted.withStatusTags [⟨"a", some ""⟩, ⟨"b", some "3"⟩]
    ∃ t v, Session.run calm (observeTagsHook drifted) { world := before } = (.ok listed, t) ∧
      Session.run calm (syncTagsHook drifted listed) { world := t.world } = (.ok synced, v) ∧
      v.world.remoteTags = drifted.desiredTags := by
  intro calm before listed synced
  have harn : drifted.arn? = some "arn:drifted" := rfl
  have hobserve : Session.run calm (observeTagsHook drifted) { world := before } =
      (.ok listed, _) := Session.ok_of_toOption (by decide +kernel)
  have hsync : Session.run calm (syncTagsHook drifted listed)
      { world := (Session.run calm (observeTagsHook drifted) { world := before }).2.world } =
      (.ok synced, _) := Session.ok_of_toOption (by decide +kernel)
  have hheals := observed_sync_heals (u := { world := _ }) harn (World.tagListing _ _)
    (World.tagService _ _) hobserve rfl hsync
  exact ⟨_, _, hobserve, hsync, hheals.1⟩

end Certificate

end CertSync
