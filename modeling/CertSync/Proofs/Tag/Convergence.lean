import CertSync.Proofs.Tag.Service

/-!
# Tag syncs converge

A sync that failed is run again with the same resources until it succeeds. The runs that failed
may each have been cut short at any call, and still the tags end up as desired.
-/

namespace CertSync.Certificate

variable {σ : Type} {removal : Removal} {arn : String} {remote : σ → TagSet}
  {wanted latest : Certificate}

/-! ## Halfway -/

def MidSync (desired observed tags : TagSet) : Prop :=
  ∀ key, tags.get? key = observed.get? key ∨ tags.get? key = desired.get? key

theorem MidSync.refl (desired observed : TagSet) : MidSync desired observed observed :=
  fun _ => .inl rfl

theorem MidSync.toward {desired observed : TagSet} {before after : σ}
    (h : MidSync desired observed (remote before))
    (hstep : Toward remote desired observed before after) :
    MidSync desired observed (remote after) := by
  intro key
  rcases hstep key with hkey | ⟨_, hkey⟩
  · rw [hkey]
    exact h key
  · exact .inr hkey

/-- However its earlier runs ended, a sync is somewhere between the two tag sets. -/
theorem midSync_of_reruns (harn : latest.arn? = some arn) {start middle : σ}
    (hstart : remote start = latest.syncedTags)
    (hruns : Reruns (TagService removal arn remote) (syncTagsHook wanted latest) start middle) :
    MidSync wanted.desiredTags latest.syncedTags (remote middle) := by
  have htoward : Toward remote wanted.desiredTags latest.syncedTags start middle :=
    hruns.within fun world hworld => syncTagsHook_toward (.of_arn harn hworld)
  refine MidSync.toward ?_ htoward
  rw [hstart]
  exact .refl _ _

theorem MidSync.applyTo_eq {desired observed tags : TagSet} (h : MidSync desired observed tags) :
    (TagDiff.between desired observed).applyTo removal tags = desired :=
  TagSet.ext fun key => (TagDiff.get?_applyTo removal).trans (Removal.outcome_of_or (h key))

/-! ## To the end -/

theorem syncedTags_eq (c : Certificate) :
    c.syncedTags = .ofTags (c.status.elim [] (·.tags)) := by
  rw [syncedTags]
  cases c.status <;> rfl

/-- Started where the status says the tags are, a sync that is repeated until it succeeds leaves
the desired tags, whichever way tags are removed. Where removal is by key, a run that succeeds
leaves them from exactly those tags that are right wherever the run sees nothing to change. -/
theorem syncTagsHook_converges (harn : latest.arn? = some arn) :
    let observed : TagSet := .ofTags (latest.status.elim [] (·.tags))
    let desired : TagSet := .ofTags wanted.spec.tags
    (∀ (removal : Removal) (start : σ) (world : Collaborators σ) (s t : Session σ)
        (updated : Certificate),
      remote start = observed →
      Reruns (TagService removal arn remote) (syncTagsHook wanted latest) start s.world →
      TagService removal arn remote world →
      Session.run world (syncTagsHook wanted latest) s = (.ok updated, t) →
      remote t.world = desired) ∧
    ∀ (world : Collaborators σ) (s t : Session σ) (updated : Certificate),
      TagService .byKey arn remote world →
      Session.run world (syncTagsHook wanted latest) s = (.ok updated, t) →
      (remote t.world = desired ↔
        ∀ key, observed.get? key = desired.get? key →
          (remote s.world).get? key = desired.get? key) := by
  intro observed desired
  have hobserved : latest.syncedTags = observed := syncedTags_eq latest
  constructor
  · intro removal start world s t updated hstart hruns hworld hok
    have hmid := midSync_of_reruns harn (hstart.trans hobserved.symm) hruns
    rw [(syncTagsHook_ok (.of_arn harn hworld) hok).2]
    exact hmid.applyTo_eq
  · intro world s t updated hworld hok
    rw [(syncTagsHook_ok (.of_arn harn hworld) hok).2, ← hobserved]
    exact TagDiff.applyTo_eq_iff

/-- A resource whose tags were last synced with `a` and are to have `b` instead. -/
def retagged : Certificate where
  metadata := {}
  spec := { tags := [⟨"b", some "2"⟩] }
  status := some { certificateArn := some "arn:retagged", tags := [⟨"a", some "1"⟩] }

theorem retagged_arn : retagged.arn? = some "arn:retagged" := rfl

/-- Additions fail, and so a sync that has removals to make stops halfway. -/
def withoutAdditions : Call → Disturbance
  | .service (.addTags _ _) => { failure := some ⟨"throttled", []⟩ }
  | _ => {}

/-- A sync of these tags that stopped halfway is finished by the next run, and a tag that somebody
else put there stays. -/
theorem retagged_converges :
    let sync := syncTagsHook retagged retagged
    let failed := Session.run (World.collaborators withoutAdditions) sync
      { world := { remoteTags := .ofList [("a", "1")] } }
    let next := Session.run (World.collaborators fun _ => {}) sync { world := failed.2.world }
    let foreign := Session.run (World.collaborators fun _ => {}) sync
      { world := { remoteTags := .ofList [("a", "1"), ("x", "9")] } }
    failed.1.toOption = none ∧ failed.2.world.remoteTags = ∅ ∧
      next.2.world.remoteTags = .ofList [("b", "2")] ∧
      foreign.2.world.remoteTags ≠ .ofList [("b", "2")] := by
  intro sync failed next foreign
  have hconverges := @syncTagsHook_converges World _ World.remoteTags retagged retagged retagged_arn
  refine ⟨by decide +kernel, by decide +kernel, ?_, ?_⟩
  · refine hconverges.1 .byKey { remoteTags := .ofList [("a", "1")] } _
      { world := failed.2.world } _ (retagged.withStatusTags [⟨"b", some "2"⟩]) rfl ?_
      (World.tagService _ _) (Session.ok_of_toOption (by decide +kernel))
    exact .single ⟨_, World.tagService withoutAdditions _,
      { world := { remoteTags := .ofList [("a", "1")] } }, rfl, rfl⟩
  · have hforeign := hconverges.2 (World.collaborators fun _ => {})
      { world := { remoteTags := .ofList [("a", "1"), ("x", "9")] } } _
      (retagged.withStatusTags [⟨"b", some "2"⟩]) (World.tagService _ _)
      (Session.ok_of_toOption (by decide +kernel))
    intro h
    have hx := hforeign.mp h "x" (by decide +kernel)
    revert hx
    decide +kernel

end CertSync.Certificate
