import CertSync.Der.Element

/-!
# Algorithm identifiers

An object identifier with the parameters that go with it.
-/

namespace CertSync

/-- An algorithm by its identifier. Parameters may be left out. -/
structure AlgorithmId where
  id : ObjectId
  parameters : Option DerElement
deriving DecidableEq

namespace AlgorithmId

def ofDer? (e : DerElement) : Option AlgorithmId := do
  match ← e.sequence? with
  | [id] => return ⟨← id.objectId?, none⟩
  | [id, parameters] => return ⟨← id.objectId?, some parameters⟩
  | _ => none

def toDer (a : AlgorithmId) : DerElement :=
  .sequence (.objectId a.id :: a.parameters.toList)

end AlgorithmId

end CertSync
