import CertSync.Http
import CertSync.SecretStore.Object

/-!
# Requests for secrets

What is asked of the API server, how it is written, and how the answer is read.
-/

namespace CertSync

/-- What is asked of the server: a secret, a change of one entry, or a new secret with one entry. -/
inductive SecretRequest where
  | get (ns name : String)
  | patch (ns name key encoded : String)
  | create (ns name key value : String)
deriving DecidableEq

namespace SecretRequest

def collection (ns : String) : String := s!"/api/v1/namespaces/{ns}/secrets"

def item (ns name : String) : String := s!"{collection ns}/{name}"

/-- The request on the wire. Only a change says who makes it. -/
def toHttp (fieldManager : String) : SecretRequest → HttpRequest
  | get ns name => { method := .get, path := item ns name }
  | patch ns name key encoded => {
    method := .patch
    path := item ns name
    query := [("fieldManager", fieldManager)]
    body := some {
      contentType := "application/merge-patch+json"
      contents := .object [("data", .object [(key, .text encoded)])] } }
  | create ns name key value => {
    method := .post
    path := collection ns
    query := [("fieldManager", fieldManager)]
    body := some {
      contentType := "application/json"
      contents := .object [
        ("apiVersion", .text "v1"),
        ("kind", .text "Secret"),
        ("metadata", .object [("name", .text name), ("namespace", .text ns)]),
        ("stringData", .object [(key, .text value)])] } }

end SecretRequest

/-- Why there is no secret in the answer: it does not exist, or something else. -/
inductive SecretRefusal where
  | notFound
  | failed
deriving DecidableEq

/-- How a request went: every request that succeeds is answered with the secret. -/
abbrev SecretReply := Except SecretRefusal SecretObject

namespace SecretReply

/-! ## Reading -/

def statusCode? (j : Json) : Option Nat := do
  let n ← j.integer?
  guard (0 ≤ n ∧ n < UInt16.size)
  return n.toNat

/-- The reason in the account that the server gives of a refusal. -/
def reason? (j : Json) : Option String := do
  let r ← j.record? ["status", "message", "reason", "code"]
  discard (Json.required Json.text? (r "status"))
  discard (Json.defaulted "" Json.text? (r "message"))
  let reason ← Json.defaulted "" Json.text? (r "reason")
  discard (Json.required statusCode? (r "code"))
  return reason

/-- A secret is absent only if the server says so in words; the status code alone says nothing. -/
def refusal (body : String) : SecretRefusal :=
  if (Json.ofText? body >>= reason?) = some "NotFound" then .notFound else .failed

/-- Anything below 400 counts as success, and must then show a secret. -/
def ofResponse (r : HttpResponse) : SecretReply :=
  if r.status < 400 then
    match SecretObject.ofText? r.body with
    | some secret => .ok secret
    | none => .error .failed
  else .error (refusal r.body)

end SecretReply

end CertSync
