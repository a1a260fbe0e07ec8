import CertSync.Proofs.Bytes.Base64
import CertSync.SecretStore.Request

/-!
# A server of secrets

What the API server makes of a request for the secrets it keeps. A look is answered with what is
there, a patch is merged into a secret that exists, and a secret is created where there is none.
-/

namespace CertSync

/-- The entries of one secret. -/
abbrev SecretEntries := Std.ExtTreeMap String Bytes

/-- The secrets that exist, each under the path that it is asked for by. -/
abbrev SecretServer := Std.ExtTreeMap String SecretEntries

namespace SecretServer

variable {server : SecretServer} {entries : SecretEntries} {r : HttpRequest}

def held? (server : SecretServer) (path key : String) : Option Bytes :=
  server[path]? >>= fun entries => entries[key]?

/-! ## What a request says -/

/-- What one field of a merge patch makes of the entries: null takes an entry away. -/
def mergeField? (entries : SecretEntries) (field : String × Json) : Option SecretEntries :=
  match field.2 with
  | .null => some (entries.erase field.1)
  | value => (SecretObject.bytes? value).map fun bytes => entries.insert field.1 bytes

/-- The entries after a merge patch, which leaves those alone that it does not name. -/
def merge? (entries : SecretEntries) (body : HttpBody) : Option SecretEntries := do
  guard (body.contentType = "application/merge-patch+json")
  match (← body.contents.object?).lookup "data" with
  | none => return entries
  | some .null => return ∅
  | some data => (← data.object?).foldlM mergeField? entries

/-- The secret that a body describes, after its name. Entries handed in as text are kept as bytes,
and count before others of the same name. -/
def described? (body : HttpBody) : Option (String × SecretEntries) := do
  guard (body.contentType = "application/json")
  let secret ← SecretObject.ofJson? body.contents
  let metadata ← Json.last? Metadata.ofJson? (← body.contents.object?) "metadata"
  let name ← metadata >>= Metadata.name
  return (name, secret.data ∪ secret.stringData.map fun _ text => Bytes.ofText text)

/-- The secret that a request describes, after the path it is to be found under. -/
def created? (r : HttpRequest) : Option (String × SecretEntries) :=
  (r.body >>= described?).map fun secret => (s!"{r.path}/{secret.1}", secret.2)

/-- What a request to create a secret has for an entry. -/
def createdValue? (r : HttpRequest) (path key : String) : Option Bytes :=
  created? r >>= fun secret => if secret.1 = path then secret.2[key]? else none

/-! ## Serving -/

/-- Keep the entries under the path, and answer with the secret. -/
def keep (server : SecretServer) (path : String) (entries : SecretEntries) :
    SecretReply × SecretServer :=
  (.ok { data := entries }, server.insert path entries)

/-- The answer to a request, and the secrets after it. -/
def serve (server : SecretServer) (r : HttpRequest) : SecretReply × SecretServer :=
  match r.method with
  | .get =>
    match server[r.path]? with
    | none => (.error .notFound, server)
    | some entries => (.ok { data := entries }, server)
  | .patch =>
    match server[r.path]? with
    | none => (.error .notFound, server)
    | some entries =>
      match r.body >>= merge? entries with
      | none => (.error .failed, server)
      | some merged => server.keep r.path merged
  | .post =>
    match created? r with
    | none => (.error .failed, server)
    | some (path, entries) =>
      match server[path]? with
      | some _ => (.error .failed, server)
      | none => server.keep path entries

theorem serve_get (server : SecretServer) (h : r.method = .get) : (server.serve r).2 = server := by
  unfold serve
  rw [h]
  dsimp only
  split <;> rfl

theorem serve_of_error {why : SecretRefusal} (h : (server.serve r).1 = .error why) :
    (server.serve r).2 = server := by
  unfold serve at h ⊢
  cases hmethod : r.method with
  | get => exact hmethod ▸ serve_get server hmethod
  | patch => grind [keep]
  | post => grind [keep]

/-! ## Entries -/

theorem held?_insert (server : SecretServer) (path : String) (entries : SecretEntries)
    (other key : String) :
    held? (server.insert path entries) other key =
      if path = other then entries[key]? else server.held? other key := by
  unfold held?
  rw [Std.ExtTreeMap.getElem?_insert]
  simp only [Std.compare_eq_iff_eq]
  split <;> rfl

theorem held?_of_absent {path : String} (h : server[path]? = none) (key : String) :
    server.held? path key = none := by
  simp [held?, h]

theorem held?_serve_post (hmethod : r.method = .post) (hok : (server.serve r).1.isOk = true)
    (path key : String) :
    (server.serve r).2.held? path key =
      (createdValue? r path key).or (server.held? path key) := by
  unfold serve at hok ⊢
  unfold createdValue?
  rw [hmethod] at hok ⊢
  rcases hcreated : created? r with _ | ⟨made, entries⟩
  · simp [hcreated, Except.isOk, Except.toBool] at hok
  · cases hfree : server[made]? with
    | some _ => simp [hcreated, hfree, Except.isOk, Except.toBool] at hok
    | none =>
      simp only [hfree, keep, held?_insert, Option.bind_eq_bind, Option.bind_some]
      by_cases hpath : made = path
      · subst hpath
        simp [held?_of_absent hfree]
      · simp [hpath]

/-! ## One entry -/

theorem merge?_entry (entries : SecretEntries) (key : String) (bytes : Bytes) :
    merge? entries {
      contentType := "application/merge-patch+json"
      contents := .object
        [("data", .object [(key, .text (String.ofList (Base64.encode bytes)))])] } =
      some (entries.insert key bytes) := by
  have hbytes : SecretObject.bytes? (.text (String.ofList (Base64.encode bytes))) = some bytes := by
    simp [SecretObject.bytes?, Json.text?, Base64.decode?_encode]
  simp [merge?, guard, Json.object?, mergeField?, hbytes]

theorem serve_patch (server : SecretServer) (fieldManager ns name key : String) (bytes : Bytes) :
    server.serve ((SecretRequest.patch ns name key
        (String.ofList (Base64.encode bytes))).toHttp fieldManager) =
      match server[SecretRequest.item ns name]? with
      | none => (.error .notFound, server)
      | some entries => server.keep (SecretRequest.item ns name) (entries.insert key bytes) := by
  unfold serve SecretRequest.toHttp
  simp only [Option.bind_eq_bind, Option.bind_some, merge?_entry]

theorem described?_entry (ns name key value : String) :
    described? {
      contentType := "application/json"
      contents := .object [
        ("apiVersion", .text "v1"),
        ("kind", .text "Secret"),
        ("metadata", .object [("name", .text name), ("namespace", .text ns)]),
        ("stringData", .object [(key, .text value)])] } =
      some (name, ∅ ∪ ((∅ : TextMap).insert key value).map fun _ text => Bytes.ofText text) := rfl

theorem created?_toHttp (fieldManager ns name key value : String) :
    created? ((SecretRequest.create ns name key value).toHttp fieldManager) =
      some (SecretRequest.item ns name, (∅ : SecretEntries).insert key (Bytes.ofText value)) := by
  have hentries : (∅ : SecretEntries) ∪ ((∅ : TextMap).insert key value).map
      (fun _ text => Bytes.ofText text) = (∅ : SecretEntries).insert key (Bytes.ofText value) := by
    apply Std.ExtTreeMap.ext_getElem?
    intro k
    rw [Std.ExtTreeMap.getElem?_union, Std.ExtTreeMap.getElem?_map, Std.ExtTreeMap.getElem?_insert,
      Std.ExtTreeMap.getElem?_insert]
    split <;> simp
  unfold created? SecretRequest.toHttp
  simp only [Option.bind_eq_bind, Option.bind_some, described?_entry, hentries]
  rfl

theorem serve_create (server : SecretServer) (fieldManager ns name key value : String) :
    server.serve ((SecretRequest.create ns name key value).toHttp fieldManager) =
      match server[SecretRequest.item ns name]? with
      | some _ => (.error .failed, server)
      | none => server.keep (SecretRequest.item ns name)
          ((∅ : SecretEntries).insert key (Bytes.ofText value)) := by
  unfold serve
  rw [created?_toHttp]
  rfl

end SecretServer

end CertSync
