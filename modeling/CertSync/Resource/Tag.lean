import Std.Data.ExtTreeMap

/-!
# Tags

`Tag` is a tag as a resource declares it, where the value may be left out. `TagSet` is what tags
mean: each key has one value, and the order of the keys is that of their code points.
-/

namespace CertSync

/-- A tag as it is declared. -/
structure Tag where
  key : String
  value : Option String
deriving DecidableEq

/-- Texts by their names, in the order of the code points. -/
abbrev TextMap := Std.ExtTreeMap String String

/-- Tags by their keys, one value each. -/
structure TagSet where
  toMap : TextMap
deriving DecidableEq

namespace TagSet

def empty : TagSet := ⟨∅⟩

def get? (tags : TagSet) (key : String) : Option String := tags.toMap[key]?

def contains (tags : TagSet) (key : String) : Bool := tags.toMap.contains key

def size (tags : TagSet) : Nat := tags.toMap.size

def isEmpty (tags : TagSet) : Bool := tags.toMap.isEmpty

/-- Any value that the key had is replaced. -/
def insert (tags : TagSet) (key value : String) : TagSet := ⟨tags.toMap.insert key value⟩

def erase (tags : TagSet) (key : String) : TagSet := ⟨tags.toMap.erase key⟩

/-- The tags for whose key and value `keep` holds. -/
def filter (keep : String → String → Bool) (tags : TagSet) : TagSet := ⟨tags.toMap.filter keep⟩

def keys (tags : TagSet) : List String := tags.toMap.keys

/-- The tags in the order of their keys. -/
def toList (tags : TagSet) : List (String × String) := tags.toMap.toList

/-- The last pair with a key gives its value. -/
def ofList (pairs : List (String × String)) : TagSet :=
  pairs.foldl (fun tags pair => tags.insert pair.1 pair.2) empty

/-- A tag without a value has the empty one. -/
def ofTags (tags : List Tag) : TagSet :=
  ofList (tags.map fun tag => (tag.key, tag.value.getD ""))

/-- Tags in the order of their keys, each with its value. -/
def toTags (tags : TagSet) : List Tag :=
  tags.toList.map fun pair => { key := pair.1, value := some pair.2 }

instance : EmptyCollection TagSet := ⟨empty⟩

end TagSet

/-! ## Changes -/

/-- One key is given a value, or loses the one that it has. -/
inductive TagChange where
  | insert (key value : String)
  | erase (key : String)
deriving DecidableEq

/-- The value that the key had so far, and the tags after the change. -/
def TagSet.change (tags : TagSet) : TagChange → Option String × TagSet
  | .insert key value => (tags.get? key, tags.insert key value)
  | .erase key => (tags.get? key, tags.erase key)

end CertSync
