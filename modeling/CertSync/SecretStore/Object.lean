import CertSync.Bytes.Base64
import CertSync.Json.Reader
import CertSync.Resource.Reader

/-!
# Secret objects

A secret as the API server shows it. Entries that are stored are bytes, written in base64; entries
that a client handed in as text may stand beside them.
-/

namespace CertSync

/-- The entries of a secret: those in store, and those handed in as text. -/
structure SecretObject where
  data : Std.ExtTreeMap String Bytes := ∅
  stringData : TextMap := ∅
deriving DecidableEq

namespace SecretObject

/-- The bytes of an entry. What is stored comes before what was handed in. -/
def entry? (secret : SecretObject) (key : String) : Option Bytes :=
  secret.data[key]?.or (secret.stringData[key]?.map Bytes.ofText)

/-! ## Reading -/

def bytes? (j : Json) : Option Bytes := j.text? >>= fun s => Base64.decode? s.toList

/-- Names and bytes. An entry that is null is empty. -/
def data? (j : Json) : Option (Std.ExtTreeMap String Bytes) := do
  let pairs ← (← j.object?).mapM fun f =>
    (Json.optional bytes? f.2).map fun bytes => (f.1, bytes.getD [])
  return pairs.foldl (fun m pair => m.insert pair.1 pair.2) ∅

/-- A field that may be left out, but not say anything else. -/
def isOnly (expected : String) (fields : List (String × Json)) (name : String) : Bool :=
  (fields.filter fun f => f.1 = name).all fun f => f.2.text? = some expected

/-- An object of another kind is no secret, and one bad entry spoils the whole. -/
def ofJson? (j : Json) : Option SecretObject := do
  let fields ← j.object?
  guard (isOnly "v1" fields "apiVersion" && isOnly "Secret" fields "kind")
  let data ← Json.last? data? fields "data"
  let stringData ← Json.last? TextMap.ofJson? fields "stringData"
  discard (Json.last? Metadata.ofJson? fields "metadata")
  discard (Json.last? Json.text? fields "type")
  discard (Json.last? Json.bool? fields "immutable")
  return { data := data.getD ∅, stringData := stringData.getD ∅ }

def ofText? (s : String) : Option SecretObject := Json.ofText? s >>= ofJson?

end SecretObject

end CertSync
