import CertSync.Json.Printer
import CertSync.Proofs.Json.Shape
import CertSync.Resource.Reader
import Mathlib.Data.Option.Basic

/-!
# The shapes of resources

The records that a certificate document is made of, with what it takes to leave each field out. The
document is read by its shape: what its records pass over makes no difference to the certificate, or
to there being one, and a null for a field with a default is refused.

Metadata and the object form of a label are no records.
-/

namespace CertSync

open Json (Presence Shape Alike NullsDefault Follows Assembles)
open Json.Follows (plain)

/-! ## Records of a spec -/

namespace Tag

def fields : List (String × Presence × Shape) :=
  [("key", .required, .plain), ("value", .optional, .plain)]

theorem follows : Follows (.record fields) ofJson? :=
  Assembles.follows
    (.field (plain _).required fun _ =>
      .field (plain _).optional fun _ => .pure _) (by decide)

end Tag

namespace SecretRef

def fields : List (String × Presence × Shape) :=
  [("name", .required, .plain), ("namespace", .optional, .plain), ("key", .required, .plain)]

theorem follows : Follows (.record fields) ofJson? :=
  Assembles.follows
    (.field (plain _).required fun _ =>
      .field (plain _).optional fun _ =>
      .field (plain _).required fun _ => .pure _) (by decide)

end SecretRef

namespace ExportTarget

def fields : List (String × Presence × Shape) :=
  [("namespace", .defaulted, .plain), ("name", .required, .plain), ("key", .defaulted, .plain)]

theorem follows : Follows (.record fields) ofJson? :=
  Assembles.follows
    (.field ((plain _).defaulted rfl _) fun _ =>
      .field (plain _).required fun _ =>
      .field ((plain _).defaulted rfl _) fun _ => .pure _) (by decide)

end ExportTarget

namespace DomainValidationOption

def fields : List (String × Presence × Shape) :=
  [("domainName", .required, .plain), ("validationDomain", .required, .plain)]

theorem follows : Follows (.record fields) ofJson? :=
  Assembles.follows
    (.field (plain _).required fun _ =>
      .field (plain _).required fun _ => .pure _) (by decide)

end DomainValidationOption

namespace CertificateOptions

def fields : List (String × Presence × Shape) :=
  [("certificateTransparencyLoggingPreference", .optional, .plain)]

theorem follows : Follows (.record fields) ofJson? :=
  Assembles.follows (.field (plain _).optional fun _ => .pure _) (by decide)

end CertificateOptions

namespace CertificateSpec

def fields : List (String × Presence × Shape) :=
  [("domainName", .optional, .plain),
   ("subjectAlternativeNames", .defaulted, .listOf .plain),
   ("keyAlgorithm", .optional, .plain),
   ("domainValidationOptions", .defaulted, .listOf (.record DomainValidationOption.fields)),
   ("certificateAuthorityARN", .optional, .plain),
   ("options", .optional, .record CertificateOptions.fields),
   ("certificate", .optional, .record SecretRef.fields),
   ("certificateChain", .optional, .record SecretRef.fields),
   ("privateKey", .optional, .record SecretRef.fields),
   ("exportTo", .optional, .record ExportTarget.fields),
   ("exportPassphrase", .optional, .record SecretRef.fields),
   ("tags", .defaulted, .listOf (.record Tag.fields))]

theorem follows : Follows (.record fields) ofJson? :=
  Assembles.follows
    (.field (plain _).optional fun _ =>
      .field ((plain _).listOf.defaulted rfl _) fun _ =>
      .field (plain _).optional fun _ =>
      .field (DomainValidationOption.follows.listOf.defaulted rfl _) fun _ =>
      .field (plain _).optional fun _ =>
      .field CertificateOptions.follows.optional fun _ =>
      .field SecretRef.follows.optional fun _ =>
      .field SecretRef.follows.optional fun _ =>
      .field SecretRef.follows.optional fun _ =>
      .field ExportTarget.follows.optional fun _ =>
      .field SecretRef.follows.optional fun _ =>
      .field (Tag.follows.listOf.defaulted rfl _) fun _ => .pure _) (by decide)

end CertificateSpec

/-! ## Records of a status -/

namespace Condition

def fields : List (String × Presence × Shape) :=
  [("type", .required, .plain), ("status", .required, .plain),
   ("lastTransitionTime", .optional, .plain), ("reason", .optional, .plain),
   ("message", .optional, .plain)]

theorem follows : Follows (.record fields) ofJson? :=
  Assembles.follows
    (.field (plain _).required fun _ =>
      .field (plain _).required fun _ =>
      .field (plain _).optional fun _ =>
      .field (plain _).optional fun _ =>
      .field (plain _).optional fun _ => .pure _) (by decide)

end Condition

namespace CertificateStatus

def fields : List (String × Presence × Shape) :=
  [("certificateARN", .optional, .plain),
   ("status", .optional, .plain),
   ("issuedAt", .optional, .plain),
   ("notAfter", .optional, .plain),
   ("notBefore", .optional, .plain),
   ("serial", .optional, .plain),
   ("tags", .defaulted, .listOf (.record Tag.fields)),
   ("conditions", .defaulted, .listOf (.record Condition.fields))]

theorem follows : Follows (.record fields) ofJson? :=
  Assembles.follows
    (.field (plain _).optional fun _ =>
      .field (plain _).optional fun _ =>
      .field (plain _).optional fun _ =>
      .field (plain _).optional fun _ =>
      .field (plain _).optional fun _ =>
      .field (plain _).optional fun _ =>
      .field (Tag.follows.listOf.defaulted rfl _) fun _ =>
      .field (Condition.follows.listOf.defaulted rfl _) fun _ => .pure _) (by decide)

end CertificateStatus

/-! ## Certificates -/

namespace Certificate

def fields : List (String × Presence × Shape) :=
  [("metadata", .required, .plain), ("spec", .required, .record CertificateSpec.fields),
   ("status", .optional, .record CertificateStatus.fields)]

def shape : Shape := .record fields

/-- The certificate as a record, without regard to the length of a list. -/
def ofRecord? (j : Json) : Option Certificate := do
  let r ← j.record? names
  return {
    metadata := ← Json.required Metadata.ofJson? (r "metadata")
    spec := ← Json.required CertificateSpec.ofJson? (r "spec")
    status := ← Json.optional CertificateStatus.ofJson? (r "status") }

theorem ofJson?_eq (j : Json) : ofJson? j =
    if ∀ n ∈ j.list?.map List.length, n = names.length then ofRecord? j else none := by
  cases hitems : j.list? with
  | none => simp [ofJson?, ofRecord?, hitems]
  | some items =>
    by_cases hlength : items.length = names.length
    · simp [ofJson?, ofRecord?, hitems, hlength]
    · simp [ofJson?, hitems, hlength, failure]

theorem exists_record_of_ofJson? {j : Json} {c : Certificate} (h : ofJson? j = some c) :
    ∃ r, j.record? names = some r ∧
      Json.required Metadata.ofJson? (r "metadata") = some c.metadata ∧
      Json.required CertificateSpec.ofJson? (r "spec") = some c.spec ∧
      Json.optional CertificateStatus.ofJson? (r "status") = some c.status := by
  rw [ofJson?_eq] at h
  split_ifs at h
  simp only [ofRecord?, Option.bind_eq_bind, Option.bind_eq_some_iff] at h
  obtain ⟨r, hr, _, hmetadata, _, hspec, _, hstatus, hbuild⟩ := h
  cases hbuild
  exact ⟨r, hr, hmetadata, hspec, hstatus⟩

theorem follows_ofRecord? : Follows shape ofRecord? :=
  Assembles.follows
    (.field (plain _).required fun _ =>
      .field CertificateSpec.follows.required fun _ =>
      .field CertificateStatus.follows.optional fun _ => .pure _) (by decide)

theorem follows : Follows shape ofJson? where
  congr h := by
    rw [ofJson?_eq, ofJson?_eq, h.length_list, follows_ofRecord?.congr h]
  refuses h := by
    rw [ofJson?_eq, follows_ofRecord?.refuses h, ite_self]

/-- What the records of a document pass over changes nothing, whether the document is given as a
value or as a text; a null for a default is refused. -/
theorem reading_follows_shape :
    (∀ {j j' : Json}, Alike shape j j' → ofJson? j' = ofJson? j) ∧
    (∀ {j : Json}, NullsDefault shape j → ofJson? j = none) ∧
    (∀ {s s' : String} {j j' : Json}, Json.ofText? s = some j → Json.ofText? s' = some j' →
      Alike shape j j' → ofText? s' = ofText? s) ∧
    ∀ {s : String} {j : Json}, Json.ofText? s = some j → NullsDefault shape j →
      ofText? s = none := by
  refine ⟨follows.congr, follows.refuses, fun hs hs' halike => ?_, fun hs hnulls => ?_⟩
  · rw [ofText?, ofText?, hs, hs']
    exact follows.congr halike
  · rw [ofText?, hs]
    exact follows.refuses hnulls

/-- A document that has only what exports to this target take. -/
def exportingTo (target : Json) : Json := .object [
  ("metadata", .object [("name", .text "site")]),
  ("spec", .object [("exportTo", target)])]

theorem alike_exportingTo {target target' : Json}
    (h : Alike (.record ExportTarget.fields) target target') :
    Alike shape (exportingTo target) (exportingTo target') :=
  .field (l := [_]) (List.mem_of_getElem? (i := 1) rfl) <|
    .field (l := []) (List.mem_of_getElem? (i := 9) rfl) h

theorem nullsDefault_exportingTo {target : Json}
    (h : NullsDefault (.record ExportTarget.fields) target) :
    NullsDefault shape (exportingTo target) :=
  .field (List.mem_of_getElem? (i := 1) rfl) (List.mem_of_getElem? (i := 1) rfl) <|
    .field (List.mem_of_getElem? (i := 9) rfl) (List.mem_of_getElem? (i := 0) rfl) h

def exportingToWeb : Json :=
  exportingTo (.object [("name", .text "tls"), ("namespace", .text "web")])

/-- The same in another order, with a field that nobody knows and with a null for the status. -/
def exportingToWebVaried : Json := .object [
  ("status", .null),
  ("metadata", .object [("name", .text "site")]),
  ("spec", .object [("exportTo",
    .object [("replicas", .list []), ("namespace", .text "web"), ("name", .text "tls")])])]

def exportingToNullKey : Json := exportingTo (.object [("name", .text "tls"), ("key", .null)])

theorem reading_exportingTo :
    (ofJson? exportingToWebVaried = ofJson? exportingToWeb ∧ (ofJson? exportingToWeb).isSome ∧
      ofJson? exportingToNullKey = none) ∧
    ofText? exportingToWebVaried.toText = ofText? exportingToWeb.toText ∧
      (ofText? exportingToWeb.toText).isSome ∧ ofText? exportingToNullKey.toText = none := by
  have htarget : Alike (.record ExportTarget.fields)
      (.object [("name", .text "tls"), ("namespace", .text "web")])
      (.object [("replicas", .list []), ("namespace", .text "web"), ("name", .text "tls")]) :=
    .trans (.reordered (.swap _ _ _)) (.inserted _ (by decide))
  have hvaried : Alike shape exportingToWeb exportingToWebVaried :=
    .trans (alike_exportingTo htarget) (.nulled (List.mem_of_getElem? (i := 2) rfl) (by decide))
  have hnull : NullsDefault shape exportingToNullKey := nullsDefault_exportingTo
    (.here (List.mem_of_getElem? (i := 2) rfl) (List.mem_of_getElem? (i := 1) rfl))
  have hread : Json.ofText? exportingToWeb.toText = some exportingToWeb := by rfl
  have hreadVaried : Json.ofText? exportingToWebVaried.toText = some exportingToWebVaried := by rfl
  have hreadNull : Json.ofText? exportingToNullKey.toText = some exportingToNullKey := by rfl
  obtain ⟨hcongr, hrefuses, hcongrText, hrefusesText⟩ := reading_follows_shape
  refine ⟨⟨hcongr hvaried, rfl, hrefuses hnull⟩, hcongrText hread hreadVaried hvaried, ?_,
    hrefusesText hreadNull hnull⟩
  rw [ofText?, hread]
  rfl

end Certificate

end CertSync
