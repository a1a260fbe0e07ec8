import CertSync.Hook.Basic
import CertSync.Resource.Certificate
import CertSync.TagDiff

/-!
# Keeping tags in step

Tags that are no longer desired are removed before others are added, with one call for each, and
with none if there is nothing to do. What was synced last is remembered in the status.
-/

namespace CertSync

/-- One call for all the tags, after a message for each key; no call for no tags. -/
def removeTags (site : Hook.Site) (arn : String) (tags : TagSet) : Hook Unit := do
  if !tags.isEmpty then
    tags.keys.forM fun key => Hook.debug s!"removing tag from resource: {key}"
    site.service (.removeTags arn tags)

/-- One call for all the tags, after a message for each key; no call for no tags. -/
def addTags (site : Hook.Site) (arn : String) (tags : TagSet) : Hook Unit := do
  if !tags.isEmpty then
    tags.keys.forM fun key => Hook.debug s!"adding tag to resource: {key}"
    site.service (.addTags arn tags)

/-- Bring the tags of a certificate from the observed ones to the desired ones, removals first. A
refused removal leaves the additions undone. -/
def syncTags (arn : String) (desired observed : TagSet) : Hook TagDiff := do
  let diff := TagDiff.between desired observed
  Hook.log (.span "certificate.tags.sync" [
    ("certificate.arn", .text arn),
    ("tags.add", .number diff.toAdd.size),
    ("tags.remove", .number diff.toRemove.size)])
  let site : Hook.Site := ⟨"sync_tags", arn⟩
  removeTags site arn diff.toRemove
  addTags site arn diff.toAdd
  return diff

/-- The tags that the service has for a certificate. -/
def listTags (arn : String) : Hook TagSet :=
  Hook.Site.service ⟨"list_tags", arn⟩ (.listTags arn)

namespace Certificate

/-- The tags that were synced last. -/
def syncedTags (c : Certificate) : TagSet := .ofTags ((c.status.map (·.tags)).getD [])

/-- The tags that the spec asks for; a key that is given twice has its last value. -/
def desiredTags (c : Certificate) : TagSet := .ofTags c.spec.tags

/-- Bring the remote tags to those of the spec, going by what was synced last, and note them as
synced. The certificate itself is not asked for its tags. -/
def syncTagsHook (desired latest : Certificate) : Hook Certificate := do
  match latest.arn? with
  | none => throw (.missingArn "sync_tags" latest.resourceKey "sync tags")
  | some arn =>
    discard (syncTags arn desired.desiredTags latest.syncedTags)
    return latest.withStatusTags desired.desiredTags.toTags

/-- Note the tags that the service has as the synced ones. -/
def observeTagsHook (latest : Certificate) : Hook Certificate := do
  match latest.arn? with
  | none => throw (.missingArn "observe_tags" latest.resourceKey "list tags")
  | some arn =>
    let observed ← listTags arn
    return latest.withStatusTags observed.toTags

end Certificate

end CertSync
