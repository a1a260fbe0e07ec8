import CertSync.Hook.Call
import CertSync.Http
import CertSync.Json.Reader
import CertSync.Json.Record

/-!
# Responses of the certificate service

A response that succeeds carries an object whose fields are read loosely. One that fails carries
the kind of the error; of all kinds only one has a meaning to a caller, and to one operation alone:
an export that finds no certificate.
-/

namespace CertSync

inductive AcmDefect where
  /-- The call failed, or what came back cannot be read. -/
  | failed
  /-- What came back lacks a part that the answer needs. -/
  | lacks (part : String)
deriving DecidableEq

/-- The account that a call gives of a response it cannot use. -/
def AcmDefect.message (c : ServiceCall) : AcmDefect → String
  | lacks part => s!"{c.name} response did not include {part}"
  | failed =>
    match c with
    | .importCertificate _ => "Failed to import certificate into ACM"
    | .exportCertificate arn _ => s!"Failed to export certificate {arn}"
    | .addTags arn _ => s!"Failed to add tags to certificate {arn}"
    | .removeTags arn _ => s!"Failed to remove tags from certificate {arn}"
    | .listTags arn => s!"Failed to list tags of certificate {arn}"

namespace HttpResponse

def isSuccess (r : HttpResponse) : Bool := 200 ≤ r.status && r.status < 300

/-- The fields of the object in the body. An empty body is an empty object. -/
def fields (r : HttpResponse) : Except AcmDefect (List (String × Json)) :=
  if r.body.isEmpty then .ok []
  else (Json.ofText? r.body >>= Json.object?).elim (.error .failed) .ok

end HttpResponse

/-! ## Errors -/

/-- The kind of an error without the namespace before it and the address behind it. -/
def bareKind (kind : List Char) : List Char :=
  let kind := kind.takeWhile (· ≠ ':')
  if kind.contains '#' then (kind.dropWhile (· ≠ '#')).drop 1 else kind

/-- The kind that an error response gives. Values that are no text are passed over. -/
def errorKind? (fields : List (String × Json)) : Option String := do
  let texts := fields.filterMap fun f => f.2.text?.map (f.1, ·)
  let kind ← (texts.reverse.lookup "code").or (texts.reverse.lookup "__type")
  return String.ofList (bareKind kind.toList)

/-- The one error with a meaning: the certificate is not there. A message that is neither text nor
null makes it unreadable. -/
def HttpResponse.isNotFound (r : HttpResponse) : Bool :=
  match Json.ofText? r.body >>= Json.object? with
  | some fields =>
    errorKind? fields = some "ResourceNotFoundException" &&
      (Json.last? Json.text? fields "message").isSome
  | none => false

/-! ## Answers -/

/-- One tag. A missing key is read as the empty one, like a missing value. -/
def Tag.ofAcm? (j : Json) : Option Tag := do
  let fields ← j.object?
  return {
    key := (← Json.last? Json.text? fields "Key").getD ""
    value := ← Json.last? Json.text? fields "Value" }

/-- The tags of a list, in which null stands for no tag. -/
def TagSet.ofAcm? (j : Json) : Option TagSet := do
  let tags ← (← j.list?).mapM (Json.optional Tag.ofAcm? ∘ some)
  return .ofTags (tags.filterMap id)

namespace AcmDefect

/-- A field of the answer. One that cannot be read spoils the whole. -/
def field (decode : Json → Option α) (fields : List (String × Json)) (name : String) :
    Except AcmDefect (Option α) :=
  (Json.last? decode fields name).elim (.error .failed) .ok

def need (part : String) (value : Option α) : Except AcmDefect α :=
  value.elim (.error (.lacks part)) .ok

end AcmDefect

namespace ServiceCall

open AcmDefect (field need)

/-- The answer in a response that succeeded. Changing tags looks at nothing in it. -/
def ofSuccess (r : HttpResponse) : (c : ServiceCall) → Except AcmDefect c.Answer
  | importCertificate _ => do
    need "a certificate ARN" (← field Json.text? (← r.fields) "CertificateArn")
  | exportCertificate _ _ => do
    let fields ← r.fields
    let certificate ← field Json.text? fields "Certificate"
    let chain ← field Json.text? fields "CertificateChain"
    let privateKey ← field Json.text? fields "PrivateKey"
    let certificate ← need "a certificate" certificate
    let privateKey ← need "a private key" privateKey
    return ExportAnswer.exported { certificate, chain, privateKey }
  | addTags _ _ => .ok ()
  | removeTags _ _ => .ok ()
  | listTags _ => do
    let tags ← field TagSet.ofAcm? (← r.fields) "Tags"
    return tags.getD ∅

/-- A response that failed is an error, unless an export did not find the certificate. -/
def ofFailure (r : HttpResponse) : (c : ServiceCall) → Except AcmDefect c.Answer
  | exportCertificate _ _ => if r.isNotFound then .ok ExportAnswer.notFound else .error .failed
  | _ => .error .failed

def ofResponse (c : ServiceCall) (r : HttpResponse) : Except AcmDefect c.Answer :=
  if r.isSuccess then c.ofSuccess r else c.ofFailure r

end ServiceCall

end CertSync
