import CertSync.Bytes.Basic
import CertSync.Resource.Spec
import CertSync.Text.Quoted

/-!
# Calls to collaborators

What a hook asks of the world: entries of secrets, and operations of the certificate service. Each
call has its own type of answer.
-/

namespace CertSync

/-- What an import sends: the material as bytes, and the tags the certificate starts with. -/
structure ImportRequest where
  certificate : Bytes
  chain : Option Bytes
  privateKey : Bytes
  tags : TagSet
deriving DecidableEq

/-- What an export brings: texts in PEM form, the private key still encrypted. -/
structure ExportedMaterial where
  certificate : String
  chain : Option String
  privateKey : String
deriving DecidableEq

/-- An export either brings the material or finds no certificate, which is not an error. -/
inductive ExportAnswer where
  | exported (material : ExportedMaterial)
  | notFound
deriving DecidableEq

/-! ## Summaries, which show no secret -/

/-- Every tag with its value, in the order of the keys. -/
def TagSet.summary (tags : TagSet) : String :=
  let entries := tags.toList.map fun pair => s!"{Text.quote pair.1}: {Text.quote pair.2}"
  "TagSet(\x7b" ++ ", ".intercalate entries ++ "\x7d)"

/-- The lengths of the certificate and the chain, and the tags. The private key is starred out. -/
def ImportRequest.summary (r : ImportRequest) : String :=
  Text.showFields "ImportRequest" [
    s!"certificate_len: {r.certificate.length}",
    s!"certificate_chain_len: {Text.showOption toString (r.chain.map List.length)}",
    "private_key: \"***\"",
    s!"tags: {r.tags.summary}"]

/-- The lengths of the certificate and the chain; of the private key, nothing. -/
def ExportedMaterial.summary (m : ExportedMaterial) : String :=
  Text.showFields "ExportedCertificate" [
    s!"certificate_len: {m.certificate.utf8ByteSize}",
    s!"certificate_chain_len: {Text.showOption toString (m.chain.map String.utf8ByteSize)}",
    ".."]

def ExportAnswer.summary : ExportAnswer → String
  | exported m => s!"Exported({m.summary})"
  | notFound => "NotFound"

/-! ## Calls -/

inductive SecretCall where
  /-- The value of the entry that a reference names, `ns` being the namespace it is read in. -/
  | resolve (ns : String) (ref : SecretRef)
  | write (ns name key value : String)
deriving DecidableEq

/-- A reference is answered with its text, a write with nothing. -/
def SecretCall.Answer : SecretCall → Type
  | resolve _ _ => String
  | write _ _ _ _ => Unit

/-- What is asked of the certificate service, with all that the operation is given. -/
inductive ServiceCall where
  | importCertificate (request : ImportRequest)
  | exportCertificate (arn : String) (passphrase : Bytes)
  | addTags (arn : String) (tags : TagSet)
  | removeTags (arn : String) (tags : TagSet)
  | listTags (arn : String)
deriving DecidableEq

namespace ServiceCall

/-- An import answers with the identifier, a listing with the tags; changing tags answers nothing.
-/
def Answer : ServiceCall → Type
  | importCertificate _ => String
  | exportCertificate _ _ => ExportAnswer
  | addTags _ _ => Unit
  | removeTags _ _ => Unit
  | listTags _ => TagSet

/-- The operation's own name, under which it is recorded and sent. -/
def name : ServiceCall → String
  | importCertificate _ => "ImportCertificate"
  | exportCertificate _ _ => "ExportCertificate"
  | addTags _ _ => "AddTagsToCertificate"
  | removeTags _ _ => "RemoveTagsFromCertificate"
  | listTags _ => "ListTagsForCertificate"

/-- The kind of the operation, under which it is recorded. -/
def type : ServiceCall → String
  | importCertificate _ => "CREATE"
  | exportCertificate _ _ => "READ_ONE"
  | addTags _ _ => "UPDATE"
  | removeTags _ _ => "UPDATE"
  | listTags _ => "GET"

end ServiceCall

inductive Call where
  | secret (call : SecretCall)
  | service (call : ServiceCall)
deriving DecidableEq

def Call.Answer : Call → Type
  | secret call => call.Answer
  | service call => call.Answer

end CertSync
