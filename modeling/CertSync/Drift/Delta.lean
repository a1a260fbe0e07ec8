import CertSync.Json.Basic

/-!
# Differences

What was found to differ between two states of a resource, in the order it was found. A path names
a place by segments with points between them.
-/

namespace CertSync

/-- A place that differs, with what each side holds there, if anything. -/
structure Difference where
  path : String
  a : Option Json
  b : Option Json

/-- The differences found so far, in their order. -/
structure Delta where
  differences : List Difference := []

namespace Delta

def add (delta : Delta) (path : String) (a b : Option Json) : Delta :=
  ⟨delta.differences ++ [⟨path, a, b⟩]⟩

def count (delta : Delta) : Nat := delta.differences.length

def isEmpty (delta : Delta) : Bool := delta.differences.isEmpty

/-- The path is the root, or goes on from it with a further segment. -/
def isBelow (root path : String) : Bool :=
  match root.toList.isPrefixOf? path.toList with
  | some [] => true
  | some ('.' :: _) => true
  | _ => false

/-- Whether some difference lies at a path or below it. -/
def differentAt (delta : Delta) (root : String) : Bool :=
  delta.differences.any fun d => isBelow root d.path

end Delta

end CertSync
