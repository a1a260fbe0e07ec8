import CertSync.Acm.Request
import CertSync.Proofs.Bytes.Base64
import CertSync.Proofs.Resource.RoundTrip
import CertSync.SecretStore.Request

/-!
# Answers on the wire

The API server writes a secret as an object that holds its entries in base64, and an error as a
status that gives its reason. A client reads either as it was written.
-/

namespace CertSync

open Json (Reads Numeric)

theorem Bytes.reads : Reads SecretObject.bytes? Bytes.toJson where
  decodes bytes := by
    simp [SecretObject.bytes?, toJson, Json.text?, Base64.decode?_encode]
  notNull _ := nofun
  numeric _ := .text _

/-! ## Secrets -/

namespace SecretObject

variable {secret : SecretObject}

theorem data_reads : Reads data? (Json.ofMap Bytes.toJson) := by
  refine Bytes.reads.map fun name bytes => ?_
  rw [Json.optional, Bytes.reads.decodes]
  · rfl
  · exact Bytes.reads.notNull bytes

/-- The object that a secret is shown as. Entries are kept as bytes, so none is shown as text. -/
def toJson (secret : SecretObject) : Json :=
  .object [
    ("apiVersion", .text "v1"),
    ("kind", .text "Secret"),
    ("data", Json.ofMap Bytes.toJson secret.data)]

theorem numeric_toJson (secret : SecretObject) : Numeric secret.toJson := by
  refine .object fun f hf => ?_
  simp only [List.mem_cons, List.not_mem_nil, or_false] at hf
  rcases hf with rfl | rfl | rfl
  · exact .text _
  · exact .text _
  · exact data_reads.numeric _

theorem ofJson?_toJson (h : secret.stringData = ∅) : ofJson? secret.toJson = some secret := by
  obtain ⟨data, stringData⟩ := secret
  subst h
  simp only [ofJson?, toJson, Json.object?, Option.bind_eq_bind, Option.bind_some]
  rw [last?_present data_reads (some data) (by simp [present])]
  rfl

theorem ofText?_toText (h : secret.stringData = ∅) :
    ofText? secret.toJson.toText = some secret := by
  rw [ofText?, Json.ofText?_toText secret.numeric_toJson]
  exact ofJson?_toJson h

end SecretObject

/-! ## Errors -/

namespace SecretReply

/-- The status that says why a request failed. -/
def status (code : Nat) (reason : String) : Json :=
  .object [
    ("kind", .text "Status"),
    ("apiVersion", .text "v1"),
    ("status", .text "Failure"),
    ("reason", .text reason),
    ("code", .ofInt code)]

/-- The response that carries a reply. Whatever a request fails for, other than that the secret is
missing, goes by one reason here. -/
def toResponse : SecretReply → HttpResponse
  | .ok secret => { status := 200, body := secret.toJson.toText }
  | .error .notFound => { status := 404, body := (status 404 "NotFound").toText }
  | .error .failed => { status := 403, body := (status 403 "Forbidden").toText }

theorem numeric_status (code : Nat) (reason : String) : Numeric (status code reason) := by
  refine .object fun f hf => ?_
  simp only [List.mem_cons, List.not_mem_nil, or_false] at hf
  rcases hf with rfl | rfl | rfl | rfl | rfl
  case inr.inr.inr.inr => exact .number (Json.isNumber_toString code)
  all_goals exact .text _

theorem statusCode?_ofInt {code : Nat} (h : code < UInt16.size) :
    statusCode? (.ofInt code) = some code := by
  have hrange : (0 : Int) ≤ code ∧ (code : Int) < UInt16.size :=
    ⟨Int.natCast_nonneg code, Int.ofNat_lt.mpr h⟩
  -- Not by `simp only`: the proof it builds makes the kernel count up to the bound.
  rw [statusCode?, Json.integer?_ofInt, Option.bind_eq_bind, Option.bind_some, guard,
    if_pos hrange]
  rfl

theorem reason?_status {code : Nat} (h : code < UInt16.size) (reason : String) :
    reason? (status code reason) = some reason := by
  have hrecord : Json.record? ["status", "message", "reason", "code"] (status code reason) =
      some fun name => List.lookup name
        [("status", .text "Failure"), ("reason", .text reason), ("code", .ofInt code)] :=
    Json.record?_object (by simp) (by simp)
  have hcode : Json.required statusCode? (some (.ofInt code)) = some code := statusCode?_ofInt h
  rw [reason?, hrecord]
  change (do
    discard (some "Failure")
    discard (some "")
    discard (Json.required statusCode? (some (.ofInt code)))
    return reason) = some reason
  rw [hcode]
  rfl

theorem refusal_status {code : Nat} (h : code < UInt16.size) (reason : String) :
    refusal (status code reason).toText = if reason = "NotFound" then .notFound else .failed := by
  rw [refusal, Json.ofText?_toText (numeric_status code reason), Option.bind_eq_bind,
    Option.bind_some, reason?_status h]
  simp only [Option.some.injEq]

theorem ofResponse_toResponse {reply : SecretReply}
    (h : ∀ secret, reply = .ok secret → secret.stringData = ∅) :
    ofResponse reply.toResponse = reply := by
  cases reply with
  | ok secret => simp [ofResponse, toResponse, SecretObject.ofText?_toText (h secret rfl)]
  | error why =>
    have hmissing : 404 < UInt16.size := by decide
    have hforbidden : 403 < UInt16.size := by decide
    cases why with
    | notFound => simp [ofResponse, toResponse, refusal_status hmissing]
    | failed => simp [ofResponse, toResponse, refusal_status hforbidden]

end SecretReply

end CertSync
