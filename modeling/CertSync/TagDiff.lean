import CertSync.Resource.Tag

/-!
# Tag differences

The changes that turn the observed tags into the desired ones. A key whose value changed is added,
which overwrites it, and never removed.
-/

namespace CertSync

/-- A pair of changes: the tags to write, and the tags to take away. -/
structure TagDiff where
  toAdd : TagSet
  toRemove : TagSet
deriving DecidableEq

namespace TagDiff

/-- To add: what is desired and not observed with that value. To remove: what is observed under a
key that is not desired. -/
def between (desired observed : TagSet) : TagDiff where
  toAdd := desired.filter fun key value => observed.get? key ≠ some value
  toRemove := observed.filter fun key _ => !desired.contains key

def isEmpty (diff : TagDiff) : Bool := diff.toAdd.isEmpty && diff.toRemove.isEmpty

end TagDiff

end CertSync
