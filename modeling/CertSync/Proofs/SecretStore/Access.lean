import CertSync.Proofs.SecretStore.Answer
import CertSync.Proofs.SecretStore.Write
import Mathlib.Data.List.Basic

/-!
# Accesses to one server

A server has secrets under the paths of secrets only, and may refuse any change. An access sends it
one request after the other and reads each answer off its text. What reading an entry and writing
one come to is said here in terms of the entries that the server holds.
-/

namespace CertSync

open SecretRequest (item)

/-! ## Paths -/

namespace SecretServer

/-- What stands between the slashes of a path. -/
def parts (path : String) : List (List Char) := path.toList.splitOn '/'

/-- The path has as many parts as those of secrets, and none of them is empty, save what stands
before the first slash. -/
def IsSecretPath (path : String) : Prop :=
  (parts path).length = 7 ∧ ∀ part ∈ (parts path).tail, part ≠ []

instance : DecidablePred IsSecretPath := fun path =>
  inferInstanceAs (Decidable ((parts path).length = 7 ∧ ∀ part ∈ (parts path).tail, part ≠ []))

theorem toList_item (ns name : String) :
    (item ns name).toList = "/api/v1/namespaces".toList ++ '/' ::
      (ns.toList ++ '/' :: ("secrets".toList ++ '/' :: name.toList)) := by
  have hfront : "/api/v1/namespaces/".toList = "/api/v1/namespaces".toList ++ ['/'] := by decide
  have hmiddle : "/secrets".toList = '/' :: "secrets".toList := by decide
  have hslash : "/".toList = ['/'] := by decide
  unfold item SecretRequest.collection
  simp only [toString, String.toList_append, hfront, hmiddle, hslash, List.append_assoc,
    List.cons_append, List.nil_append]

theorem parts_item (ns name : String) :
    parts (item ns name) =
      parts "/api/v1/namespaces" ++ (parts ns ++ (parts "secrets" ++ parts name)) := by
  unfold parts
  rw [toList_item, List.splitOn_append_cons_self, List.splitOn_append_cons_self,
    List.splitOn_append_cons_self]

theorem parts_of_length {s : String} (h : (parts s).length = 1) : parts s = [s.toList] := by
  obtain ⟨part, hpart⟩ := List.length_eq_one_iff.mp h
  have hs : ['/'].intercalate (parts s) = s.toList := List.intercalate_splitOn '/'
  rw [hpart, List.intercalate_singleton] at hs
  rw [hpart, hs]

theorem length_parts_pos (s : String) : 0 < (parts s).length :=
  List.length_pos_iff.mpr (List.splitOn_ne_nil _ _)

theorem IsSecretPath.parts_eq {ns name : String} (h : IsSecretPath (item ns name)) :
    parts ns = [ns.toList] ∧ parts name = [name.toList] := by
  have hlength := h.1
  have hfront : (parts "/api/v1/namespaces").length = 4 := by decide
  have hmiddle : (parts "secrets").length = 1 := by decide
  have hns := length_parts_pos ns
  have hname := length_parts_pos name
  rw [parts_item, List.length_append, List.length_append, List.length_append, hfront, hmiddle]
    at hlength
  exact ⟨parts_of_length (by omega), parts_of_length (by omega)⟩

theorem IsSecretPath.name_ne {ns name : String} (h : IsSecretPath (item ns name)) : name ≠ "" := by
  rintro rfl
  refine h.2 [] ?_ rfl
  rw [parts_item, h.parts_eq.1]
  simp [parts]

theorem IsSecretPath.item_inj {ns name otherNs other : String} (h : IsSecretPath (item ns name))
    (hsame : item ns name = item otherNs other) : ns = otherNs ∧ name = other := by
  have hother : IsSecretPath (item otherNs other) := hsame ▸ h
  have hparts := congrArg parts hsame
  rw [parts_item, parts_item, List.append_cancel_left_eq, h.parts_eq.1, h.parts_eq.2,
    hother.parts_eq.1, hother.parts_eq.2] at hparts
  simpa [String.toList_inj] using hparts

/-! ## Answering -/

variable {server : SecretServer} {ns name key : String}

/-- The path of the secret that a request is about. -/
def subject? (r : HttpRequest) : Option String :=
  match r.method with
  | .get | .patch => some r.path
  | .post => (created? r).map Prod.fst

/-- The answer of a server that has secrets under their own kind of path only. It makes a change
unless `refuses` says otherwise: one may be invalid, too large or not allowed. -/
def respond (refuses : SecretServer → HttpRequest → Bool) (server : SecretServer)
    (r : HttpRequest) : SecretReply × SecretServer :=
  if (subject? r).any (IsSecretPath ·) then
    if r.method ≠ .get ∧ refuses server r then (.error .failed, server) else server.serve r
  else (.error .notFound, server)

/-- Deal with one request of a client, who reads the answer off the response. -/
def handle (refuses : SecretServer → HttpRequest → Bool) (fieldManager : String)
    (request : SecretRequest) : StateM SecretServer SecretReply := fun server =>
  let answer := respond refuses server (request.toHttp fieldManager)
  (SecretReply.ofResponse answer.1.toResponse, answer.2)

/-- The entries of the secret of that name, if the server has it. -/
def find? (server : SecretServer) (ns name : String) : Option SecretEntries :=
  if IsSecretPath (item ns name) then server[item ns name]? else none

/-- The server after one entry was set, in a new secret if there was none. -/
def put (server : SecretServer) (ns name key : String) (bytes : Bytes) : SecretServer :=
  server.insert (item ns name) (((server.find? ns name).getD ∅).insert key bytes)

/-- What an entry is read as. -/
def entryText (ns name key : String) : Option Bytes → Except SecretStoreError String
  | none => .error (.noKey ns name key)
  | some bytes =>
    match bytes.toText? with
    | none => .error (.notText ns name key)
    | some text => .ok text

/-- What reading one entry comes to. -/
def read (server : SecretServer) (ns name key : String) : Except SecretStoreError String :=
  match server.find? ns name with
  | none => .error (.notRead ns name)
  | some entries => entryText ns name key entries[key]?

variable {refuses : SecretServer → HttpRequest → Bool} {fieldManager : String}

theorem find?_put (h : IsSecretPath (item ns name)) (key : String) (bytes : Bytes)
    (otherNs other : String) :
    (server.put ns name key bytes).find? otherNs other =
      if otherNs = ns ∧ other = name then
        some (((server.find? ns name).getD ∅).insert key bytes)
      else server.find? otherNs other := by
  unfold put
  by_cases hsame : otherNs = ns ∧ other = name
  · obtain ⟨rfl, rfl⟩ := hsame
    rw [if_pos ⟨rfl, rfl⟩, find?, if_pos h, Std.ExtTreeMap.getElem?_insert_self]
  · rw [if_neg hsame]
    have hpath : item ns name ≠ item otherNs other := by
      intro hpath
      obtain ⟨rfl, rfl⟩ := h.item_inj hpath
      exact hsame ⟨rfl, rfl⟩
    have hother : (server.insert (item ns name)
        (((server.find? ns name).getD ∅).insert key bytes))[item otherNs other]? =
        server[item otherNs other]? := by
      rw [Std.ExtTreeMap.getElem?_insert, if_neg]
      simpa using hpath
    rw [find?, hother, find?]

theorem stringData_of_serve {r : HttpRequest} {secret : SecretObject}
    (h : (server.serve r).1 = .ok secret) : secret.stringData = ∅ := by
  unfold serve at h
  grind [keep]

theorem handle_eq (request : SecretRequest) :
    handle refuses fieldManager request =
      fun server => respond refuses server (request.toHttp fieldManager) := by
  funext server
  have hshown : ∀ secret, (respond refuses server (request.toHttp fieldManager)).1 = .ok secret →
      secret.stringData = ∅ := by
    intro secret hsecret
    unfold respond at hsecret
    split_ifs at hsecret
    exact stringData_of_serve hsecret
  unfold handle
  dsimp only
  rw [SecretReply.ofResponse_toResponse hshown]

theorem respond_get (refuses : SecretServer → HttpRequest → Bool) (fieldManager : String)
    (server : SecretServer) (ns name : String) :
    respond refuses server ((SecretRequest.get ns name).toHttp fieldManager) =
      match server.find? ns name with
      | none => (.error .notFound, server)
      | some entries => (.ok { data := entries }, server) := by
  unfold respond find?
  simp only [subject?, SecretRequest.toHttp, Option.any_some, decide_eq_true_eq, ne_eq,
    not_true_eq_false, false_and, if_false, serve]
  split <;> rfl

theorem respond_change {r : HttpRequest} {path : String} (hmethod : r.method ≠ .get)
    (hsubject : subject? r = some path) (hpath : IsSecretPath path) :
    respond refuses server r =
      if refuses server r then (.error .failed, server) else server.serve r := by
  unfold respond
  rw [hsubject, if_pos (by simpa using hpath)]
  simp only [ne_eq, hmethod, not_false_eq_true, true_and]

theorem isSecretPath_of_find? {entries : SecretEntries} (h : server.find? ns name = some entries) :
    IsSecretPath (item ns name) := by
  unfold find? at h
  split at h
  · assumption
  · cases h

end SecretServer

/-! ## Changes -/

namespace SecretWrite

open SecretServer (IsSecretPath respond respond_change isSecretPath_of_find?)

variable {w : SecretWrite} {server : SecretServer} {refuses : SecretServer → HttpRequest → Bool}

theorem respond_update {entries : SecretEntries} (h : server.find? w.ns w.name = some entries) :
    respond refuses server (w.toHttp w.update) =
      if refuses server (w.toHttp w.update) then (.error .failed, server)
      else (.ok { data := entries.insert w.key w.bytes },
        server.put w.ns w.name w.key w.bytes) := by
  have hpath := isSecretPath_of_find? h
  have hfound := h
  rw [SecretServer.find?, if_pos hpath] at hfound
  have hserve : server.serve (w.toHttp w.update) = (.ok { data := entries.insert w.key w.bytes },
      server.put w.ns w.name w.key w.bytes) := by
    rw [toHttp, update, SecretServer.serve_patch, hfound, SecretServer.put, h]
    rfl
  have hmethod : (w.toHttp w.update).method ≠ .get := by
    simp [toHttp, update, SecretRequest.toHttp]
  rw [respond_change hmethod rfl hpath, hserve]

theorem subject?_creation : SecretServer.subject? (w.toHttp w.creation) = some (item w.ns w.name) :=
  congrArg (Option.map Prod.fst)
    (SecretServer.created?_toHttp w.store.fieldManager w.ns w.name w.key w.value)

theorem respond_creation (hpath : IsSecretPath (item w.ns w.name))
    (h : server.find? w.ns w.name = none) :
    respond refuses server (w.toHttp w.creation) =
      if refuses server (w.toHttp w.creation) then (.error .failed, server)
      else (.ok { data := (∅ : SecretEntries).insert w.key w.bytes },
        server.put w.ns w.name w.key w.bytes) := by
  have hfree := h
  rw [SecretServer.find?, if_pos hpath] at hfree
  have hserve : server.serve (w.toHttp w.creation) =
      (.ok { data := (∅ : SecretEntries).insert w.key w.bytes },
        server.put w.ns w.name w.key w.bytes) := by
    rw [toHttp, creation, SecretServer.serve_create, hfree, SecretServer.put, h]
    rfl
  have hmethod : (w.toHttp w.creation).method ≠ .get := by
    simp [toHttp, creation, SecretRequest.toHttp]
  rw [respond_change hmethod subject?_creation hpath, hserve]

end SecretWrite

/-! ## Accesses -/

namespace SecretStore

open SecretServer (handle handle_eq respond)

variable {α : Type} {store : SecretStore} {server : SecretServer}
  {refuses : SecretServer → HttpRequest → Bool}

/-- How an access ends that has the server to itself, and what it leaves there. -/
def perform (store : SecretStore) (refuses : SecretServer → HttpRequest → Bool)
    (access : StoreProgram α) (server : SecretServer) : Except SecretStoreError α × SecretServer :=
  (access.run.run (handle refuses store.fieldManager)).run server

theorem perform_of_done {access : StoreProgram α} {result : Except SecretStoreError α}
    (h : access.run = .done result) : store.perform refuses access server = (result, server) := by
  unfold perform
  rw [h]
  rfl

theorem perform_of_ask {access : StoreProgram α} {request : SecretRequest}
    {next : SecretReply → StoreProgram α} (h : access.run = .ask request next) :
    store.perform refuses access server =
      store.perform refuses (next (respond refuses server (request.toHttp store.fieldManager)).1)
        (respond refuses server (request.toHttp store.fieldManager)).2 := by
  unfold perform
  rw [h, Program.run, handle_eq]
  rfl

/-- What a reader makes of the answer to a look. -/
def readOff (ns name key : String) : SecretReply → Except SecretStoreError String
  | .error _ => .error (.notRead ns name)
  | .ok secret => SecretServer.entryText ns name key (secret.entry? key)

theorem run_resolve (fallback : String) (ref : SecretRef) :
    (resolve fallback ref).run =
      if ref.name.isEmpty then .done (.error (.notRead (ref.nsOr fallback) ref.name))
      else .ask (.get (ref.nsOr fallback) ref.name) fun told =>
        .done (readOff (ref.nsOr fallback) ref.name ref.key told) := by
  unfold resolve get
  split
  · rfl
  · refine congrArg (Program.ask _) (funext fun told => ?_)
    cases told with
    | error why => rfl
    | ok secret =>
      simp only [Program.bind, Function.comp, ExceptT.bindCont, readOff]
      cases secret.entry? ref.key with
      | none => rfl
      | some bytes =>
        simp only [SecretServer.entryText]
        cases bytes.toText? <;> rfl

theorem perform_resolve (store : SecretStore) (refuses : SecretServer → HttpRequest → Bool)
    (server : SecretServer) (fallback : String) (ref : SecretRef) :
    store.perform refuses (resolve fallback ref) server =
      (server.read (ref.nsOr fallback) ref.name ref.key, server) := by
  have hrun := run_resolve fallback ref
  split at hrun
  · next hname =>
    have hnone : server.find? (ref.nsOr fallback) ref.name = none := by
      rw [SecretServer.find?, if_neg]
      exact fun hpath => hpath.name_ne (String.isEmpty_iff.mp hname)
    rw [perform_of_done hrun, SecretServer.read, hnone]
  · rw [perform_of_ask hrun, SecretServer.respond_get, SecretServer.read]
    cases server.find? (ref.nsOr fallback) ref.name with
    | none => exact perform_of_done rfl
    | some entries =>
      have hentry : SecretObject.entry? { data := entries } ref.key = entries[ref.key]? := by
        simp [SecretObject.entry?]
      rw [perform_of_done rfl, readOff, hentry]

/-! ## Writing -/

theorem perform_change (request : SecretRequest) (refused : SecretStoreError) :
    store.perform refuses (store.change request refused) server =
      if fieldManagerLimit < store.fieldManager.utf8ByteSize then (.error refused, server)
      else ((respond refuses server (request.toHttp store.fieldManager)).1.settle refused,
        (respond refuses server (request.toHttp store.fieldManager)).2) := by
  have hrun := store.run_change request refused
  split at hrun
  · next hlong => rw [perform_of_done hrun, if_pos hlong]
  · next hlong => rw [perform_of_ask hrun, perform_of_done rfl, if_neg hlong]

end SecretStore

namespace SecretWrite

open SecretServer (IsSecretPath respond)
open SecretStore (fieldManagerLimit)

variable {w : SecretWrite} {server after : SecretServer}
  {refuses : SecretServer → HttpRequest → Bool}

/-- The write on a server that it has to itself. -/
def perform (w : SecretWrite) (refuses : SecretServer → HttpRequest → Bool)
    (server : SecretServer) : Except SecretStoreError Unit × SecretServer :=
  w.store.perform refuses (w.store.write w.ns w.name w.key w.value) server

/-- The change that the write makes. -/
def changeOn (w : SecretWrite) (server : SecretServer) : SecretRequest :=
  match server.find? w.ns w.name with
  | none => w.creation
  | some _ => w.update

/-- The error of a write whose change is turned down. -/
def refusedOn (w : SecretWrite) (server : SecretServer) : SecretStoreError :=
  match server.find? w.ns w.name with
  | none => .notCreated w.ns w.name
  | some _ => .notUpdated w.ns w.name w.key

theorem perform_eq_change (hname : w.name ≠ "") :
    w.perform refuses server =
      w.store.perform refuses (w.store.change (w.changeOn server) (w.refusedOn server)) server := by
  have hcall := w.call_eq
  rw [if_neg (by simpa using hname)] at hcall
  rw [perform, SecretStore.perform_of_ask hcall, look, SecretServer.respond_get, changeOn,
    refusedOn]
  cases server.find? w.ns w.name <;> rfl

theorem perform_of_not_isSecretPath (h : ¬ IsSecretPath (item w.ns w.name)) :
    ∃ error, w.perform refuses server = (.error error, server) := by
  by_cases hname : w.name = ""
  · have hcall := w.call_eq
    rw [if_pos (by simpa using hname)] at hcall
    exact ⟨_, SecretStore.perform_of_done hcall⟩
  · have hfind : server.find? w.ns w.name = none := if_neg h
    have hanswer : respond refuses server (w.toHttp w.creation) = (.error .notFound, server) := by
      rw [respond, subject?_creation, if_neg (by simpa using h)]
    refine ⟨.notCreated w.ns w.name, ?_⟩
    rw [perform_eq_change hname, SecretStore.perform_change, changeOn, refusedOn, hfind]
    split
    · rfl
    · rw [← toHttp, hanswer]
      rfl

theorem perform_of_isSecretPath (h : IsSecretPath (item w.ns w.name)) :
    w.perform refuses server =
      if fieldManagerLimit < w.store.fieldManager.utf8ByteSize ∨
          refuses server (w.toHttp (w.changeOn server)) then
        (.error (w.refusedOn server), server)
      else (.ok (), server.put w.ns w.name w.key w.bytes) := by
  have hanswer : ∃ secret, respond refuses server (w.toHttp (w.changeOn server)) =
      if refuses server (w.toHttp (w.changeOn server)) then (.error .failed, server)
      else (.ok secret, server.put w.ns w.name w.key w.bytes) := by
    unfold changeOn
    cases hfind : server.find? w.ns w.name with
    | none => exact ⟨_, respond_creation h hfind⟩
    | some entries => exact ⟨_, respond_update hfind⟩
  obtain ⟨secret, hanswer⟩ := hanswer
  rw [perform_eq_change h.name_ne, SecretStore.perform_change, ← toHttp, hanswer]
  by_cases hlong : fieldManagerLimit < w.store.fieldManager.utf8ByteSize
  · rw [if_pos hlong, if_pos (.inl hlong)]
  · rw [if_neg hlong]
    cases refuses server (w.toHttp (w.changeOn server)) <;> simp [hlong, SecretReply.settle]

theorem put_of_perform (h : w.perform refuses server = (.ok (), after)) :
    IsSecretPath (item w.ns w.name) ∧ after = server.put w.ns w.name w.key w.bytes := by
  by_cases hpath : IsSecretPath (item w.ns w.name)
  · rw [perform_of_isSecretPath hpath] at h
    split_ifs at h with hturned
    · cases h
    · exact ⟨hpath, (Prod.mk.inj h).2.symm⟩
  · obtain ⟨error, hperform⟩ := perform_of_not_isSecretPath hpath
    rw [hperform] at h
    cases h

end SecretWrite

end CertSync
