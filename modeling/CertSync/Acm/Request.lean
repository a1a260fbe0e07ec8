import CertSync.Bytes.Base64
import CertSync.Hook.Call
import CertSync.Json.Basic

/-!
# Requests to the certificate service

An operation is named by its target and takes one JSON object, in which bytes are written in base64.
-/

namespace CertSync

/-- An operation's target and the document it takes. -/
structure AcmRequest where
  target : String
  body : Json

def Bytes.toJson (bytes : Bytes) : Json := .text (String.ofList (Base64.encode bytes))

/-- The tags as a list of keys and values, in the order of the keys. -/
def TagSet.toAcm (tags : TagSet) : Json :=
  Json.ofList (fun pair => .object [("Key", .text pair.1), ("Value", .text pair.2)]) tags.toList

namespace ServiceCall

def arnField (arn : String) : String × Json := ("CertificateArn", .text arn)

/-- The fields of each operation. A chain or tags that are not there leave their field out. -/
def body : ServiceCall → List (String × Json)
  | importCertificate r =>
    [("Certificate", r.certificate.toJson), ("PrivateKey", r.privateKey.toJson)] ++
    (r.chain.toList.map fun chain => ("CertificateChain", Bytes.toJson chain)) ++
    if r.tags.isEmpty then [] else [("Tags", r.tags.toAcm)]
  | exportCertificate arn passphrase => [arnField arn, ("Passphrase", passphrase.toJson)]
  | addTags arn tags => [arnField arn, ("Tags", tags.toAcm)]
  | removeTags arn tags => [arnField arn, ("Tags", tags.toAcm)]
  | listTags arn => [arnField arn]

def toAcm (c : ServiceCall) : AcmRequest where
  target := s!"CertificateManager.{c.name}"
  body := .object c.body

end ServiceCall

end CertSync
