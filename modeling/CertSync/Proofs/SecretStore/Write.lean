import CertSync.Proofs.SecretStore.Server
import CertSync.SecretStore.Access

/-!
# The requests of a write

Writing one entry takes at most two requests: a look at the secret, and a change that depends on
what the look was told. Each of the two changes sets the entry alone.
-/

namespace CertSync

/-- What is left of an access that ends with nothing but its success. -/
abbrev StoreCall := Program SecretRequest (fun _ => SecretReply) (Except SecretStoreError Unit)

/-- How a change ends, told of its answer. -/
def SecretReply.settle (refused : SecretStoreError) : SecretReply → Except SecretStoreError Unit
  | .ok _ => .ok ()
  | .error _ => .error refused

theorem SecretReply.isOk_settle (refused : SecretStoreError) (told : SecretReply) :
    (told.settle refused).isOk = told.isOk := by
  cases told <;> rfl

theorem SecretStore.run_change (store : SecretStore) (request : SecretRequest)
    (refused : SecretStoreError) :
    (store.change request refused).run =
      if fieldManagerLimit < store.fieldManager.utf8ByteSize then .done (.error refused)
      else .ask request fun told => .done (told.settle refused) := by
  unfold change
  split
  · rfl
  · refine congrArg (Program.ask request) (funext fun told => ?_)
    cases told <;> rfl

/-! ## Exchanges -/

/-- How the server deals with a request. -/
inductive Fate where
  | answered
  /-- It is turned down, for whatever reason the server has, and nothing is done. -/
  | refused
  /-- It is dealt with, but all that its sender learns of that is an error. -/
  | lost
deriving DecidableEq

/-- A request that reached the server. It is one of the writes `ι`, or another client, that sent
it. -/
structure Exchange (ι : Type) where
  sender : Option ι
  sent : HttpRequest
  fate : Fate
  before : SecretServer

namespace Exchange

variable {ι : Type} {e : Exchange ι}

def outcome (e : Exchange ι) : SecretReply × SecretServer :=
  if e.fate = .refused then (.error .failed, e.before) else e.before.serve e.sent

def answer (e : Exchange ι) : SecretReply := e.outcome.1

def after (e : Exchange ι) : SecretServer := e.outcome.2

/-- What the sender takes for the answer. -/
def told (e : Exchange ι) : SecretReply := if e.fate = .lost then .error .failed else e.answer

/-- It was a change, and it was made. -/
def applied (e : Exchange ι) : Bool := e.sent.method ≠ .get && e.answer.isOk

theorem after_of_not_applied (h : e.applied = false) : e.after = e.before := by
  unfold applied answer after at *
  cases hanswer : e.outcome.1 with
  | error why =>
    unfold outcome at hanswer ⊢
    split at hanswer
    · next hrefused => rw [if_pos hrefused]
    · next hserved =>
      rw [if_neg hserved]
      exact SecretServer.serve_of_error hanswer
  | ok secret =>
    have hlook : e.sent.method = .get := by
      simpa [hanswer, Except.isOk, Except.toBool] using h
    unfold outcome
    split
    · rfl
    · exact SecretServer.serve_get _ hlook

theorem served_of_applied (h : e.applied = true) :
    (e.before.serve e.sent).1.isOk = true ∧ e.after = (e.before.serve e.sent).2 := by
  unfold applied answer outcome at h
  unfold after outcome
  split at h
  · simp [Except.isOk, Except.toBool] at h
  · next hserved =>
    rw [if_neg hserved]
    exact ⟨(Bool.and_eq_true_iff.mp h).2, rfl⟩

theorem applied_of_change (h : e.sent.method ≠ .get) : e.applied = e.answer.isOk := by
  simp [applied, h]

theorem applied_of_told (hchange : e.sent.method ≠ .get) (h : e.told.isOk = true) :
    e.applied = true := by
  rw [applied_of_change hchange]
  unfold told at h
  split at h
  · cases h
  · exact h

theorem not_applied_of_told (hchange : e.sent.method ≠ .get) (hheard : e.fate ≠ .lost)
    (h : e.told.isOk = false) : e.applied = false := by
  rw [applied_of_change hchange]
  rwa [told, if_neg hheard] at h

end Exchange

/-! ## A write -/

structure SecretWrite where
  store : SecretStore
  ns : String
  name : String
  key : String
  value : String
deriving DecidableEq

namespace SecretWrite

variable {ι : Type} {w : SecretWrite} {e : Exchange ι}

def path (w : SecretWrite) : String := SecretRequest.item w.ns w.name

def bytes (w : SecretWrite) : Bytes := Bytes.ofText w.value

def look (w : SecretWrite) : SecretRequest := .get w.ns w.name

def update (w : SecretWrite) : SecretRequest :=
  .patch w.ns w.name w.key (String.ofList (Base64.encode w.bytes))

def creation (w : SecretWrite) : SecretRequest := .create w.ns w.name w.key w.value

def toHttp (w : SecretWrite) (request : SecretRequest) : HttpRequest :=
  request.toHttp w.store.fieldManager

def call (w : SecretWrite) : StoreCall := (w.store.write w.ns w.name w.key w.value).run

/-- What is left of the call after the look. -/
def afterLook (w : SecretWrite) : SecretReply → StoreCall
  | .ok _ => (w.store.change w.update (.notUpdated w.ns w.name w.key)).run
  | .error .notFound => (w.store.change w.creation (.notCreated w.ns w.name)).run
  | .error .failed => .done (.error (.notRead w.ns w.name))

theorem call_eq (w : SecretWrite) :
    w.call = if w.name.isEmpty then .done (.error (.notRead w.ns w.name))
      else .ask w.look w.afterLook := by
  unfold call SecretStore.write SecretStore.get
  split
  · rfl
  · refine congrArg (Program.ask w.look) (funext fun told => ?_)
    rcases told with (_ | _) | _ <;> rfl

/-- The change that goes with what the look was told. -/
def Warrants (w : SecretWrite) (told : SecretReply) (request : SecretRequest) : Prop :=
  told.isOk = true ∧ request = w.update ∨ told = .error .notFound ∧ request = w.creation

theorem afterLook_cases (w : SecretWrite) (told : SecretReply) :
    (∃ error, w.afterLook told = .done (.error error)) ∨
      ∃ request refused, w.Warrants told request ∧
        w.afterLook told = .ask request fun told => .done (told.settle refused) := by
  rcases told with (_ | _) | secret
  · have hrun := w.store.run_change w.creation (.notCreated w.ns w.name)
    split at hrun
    · exact .inl ⟨_, hrun⟩
    · exact .inr ⟨_, _, .inr ⟨rfl, rfl⟩, hrun⟩
  · exact .inl ⟨_, rfl⟩
  · have hrun := w.store.run_change w.update (.notUpdated w.ns w.name w.key)
    split at hrun
    · exact .inl ⟨_, hrun⟩
    · exact .inr ⟨_, _, .inl ⟨rfl, rfl⟩, hrun⟩

theorem look_method (hsent : e.sent = w.toHttp w.look) : e.sent.method = .get := by
  rw [hsent]
  rfl

theorem look_not_applied (hsent : e.sent = w.toHttp w.look) : e.applied = false := by
  simp [Exchange.applied, look_method hsent]

theorem Warrants.ne_get {told : SecretReply} {request : SecretRequest}
    (h : w.Warrants told request) : (w.toHttp request).method ≠ .get := by
  rcases h with ⟨_, rfl⟩ | ⟨_, rfl⟩ <;> simp [toHttp, update, creation, SecretRequest.toHttp]

/-! ## What its changes do -/

/-- The entry of the write gets its value, and nothing else changes. -/
structure SetsEntry (w : SecretWrite) (before after : SecretServer) : Prop where
  entry : after.held? w.path w.key = some w.bytes
  otherEntries : ∀ key, key ≠ w.key → after.held? w.path key = before.held? w.path key
  otherSecrets : ∀ path, path ≠ w.path → after[path]? = before[path]?

theorem SetsEntry.held?_eq {before after : SecretServer}
    (h : w.SetsEntry before after) (path key : String) :
    after.held? path key =
      if w.path = path ∧ w.key = key then some w.bytes else before.held? path key := by
  by_cases hpath : w.path = path
  · subst hpath
    by_cases hkey : w.key = key
    · subst hkey
      simp [h.entry]
    · simp [hkey, h.otherEntries key (Ne.symm hkey)]
  · simp [hpath, SecretServer.held?, h.otherSecrets path (Ne.symm hpath)]

theorem setsEntry_insert {before : SecretServer} {entries : SecretEntries}
    (h : ∀ key, entries[key]? = before.held? w.path key) :
    w.SetsEntry before (before.insert w.path (entries.insert w.key w.bytes)) where
  entry := by simp [SecretServer.held?_insert]
  otherEntries key hkey := by
    rw [SecretServer.held?_insert, if_pos rfl, Std.ExtTreeMap.getElem?_insert, if_neg, h]
    simpa using Ne.symm hkey
  otherSecrets path hpath := by
    rw [Std.ExtTreeMap.getElem?_insert, if_neg]
    simpa using Ne.symm hpath

theorem setsEntry_of_update (hsent : e.sent = w.toHttp w.update) (h : e.applied = true) :
    w.SetsEntry e.before e.after := by
  obtain ⟨hok, hafter⟩ := Exchange.served_of_applied h
  rw [hsent, toHttp, update, SecretServer.serve_patch] at hok hafter
  rw [hafter]
  cases hfound : e.before[SecretRequest.item w.ns w.name]? with
  | none => simp [hfound, Except.isOk, Except.toBool] at hok
  | some entries => exact setsEntry_insert fun key => by simp [SecretServer.held?, path, hfound]

theorem setsEntry_of_creation (hsent : e.sent = w.toHttp w.creation) (h : e.applied = true) :
    w.SetsEntry e.before e.after := by
  obtain ⟨hok, hafter⟩ := Exchange.served_of_applied h
  rw [hsent, toHttp, creation, SecretServer.serve_create] at hok hafter
  rw [hafter]
  cases hfound : e.before[SecretRequest.item w.ns w.name]? with
  | some _ => simp [hfound, Except.isOk, Except.toBool] at hok
  | none => exact setsEntry_insert fun key => by simp [SecretServer.held?, path, hfound]

theorem Warrants.setsEntry {told : SecretReply} {request : SecretRequest}
    (hwarrants : w.Warrants told request) (hsent : e.sent = w.toHttp request)
    (h : e.applied = true) : w.SetsEntry e.before e.after := by
  rcases hwarrants with ⟨_, rfl⟩ | ⟨_, rfl⟩
  · exact setsEntry_of_update hsent h
  · exact setsEntry_of_creation hsent h

end SecretWrite

end CertSync
