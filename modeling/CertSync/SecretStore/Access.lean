import CertSync.Program
import CertSync.SecretStore.Request
import CertSync.Text.Quoted

/-!
# Access to secrets

Reading one entry, and writing one entry so that all others stay: an existing secret is patched at
that entry alone, and a missing one is created.
-/

namespace CertSync

/-- A client of the API server that can read and write secrets. -/
structure SecretStore where
  /-- Who the server is told makes the changes. -/
  fieldManager : String
deriving DecidableEq

/-- What an access failed at. The server's own account of it comes below. -/
inductive SecretStoreError where
  | notRead (ns name : String)
  | noKey (ns name key : String)
  | notText (ns name key : String)
  | notUpdated (ns name key : String)
  | notCreated (ns name : String)
deriving DecidableEq

/-- The secret, and the key where one is concerned. No value shows. -/
def SecretStoreError.message : SecretStoreError → String
  | notRead ns name => s!"Failed to get secret {ns}/{name}"
  | noKey ns name key => s!"Secret {ns}/{name} has no key {key}"
  | notText ns name key => s!"Key {key} of secret {ns}/{name} is not valid UTF-8"
  | notUpdated ns name key => s!"Failed to update key {key} of secret {ns}/{name}"
  | notCreated ns name => s!"Failed to create secret {ns}/{name}"

/-- A program of requests to the server, which may fail. -/
abbrev StoreProgram :=
  ExceptT SecretStoreError (Program SecretRequest fun _ => SecretReply)

namespace SecretStore

def ask (request : SecretRequest) : StoreProgram SecretReply :=
  ExceptT.lift (Program.request request)

/-- Get a secret. Without a name there is nothing to ask for. -/
def get (ns name : String) : StoreProgram SecretReply :=
  if name.isEmpty then throw (.notRead ns name) else ask (.get ns name)

def fieldManagerLimit : Nat := 128

/-- Make a change, if its maker's name is one that a change may carry. -/
def change (store : SecretStore) (request : SecretRequest) (refused : SecretStoreError) :
    StoreProgram Unit := do
  if fieldManagerLimit < store.fieldManager.utf8ByteSize then throw refused
  match ← ask request with
  | .ok _ => return ()
  | .error _ => throw refused

/-- The text of the entry that a reference names, `ns` being the namespace it is read in. -/
def resolve (ns : String) (ref : SecretRef) : StoreProgram String := do
  let ns := ref.nsOr ns
  match ← get ns ref.name with
  | .error _ => throw (.notRead ns ref.name)
  | .ok secret =>
    match secret.entry? ref.key with
    | none => throw (.noKey ns ref.name ref.key)
    | some bytes =>
      match bytes.toText? with
      | none => throw (.notText ns ref.name ref.key)
      | some text => return text

/-- Patch the entry if the secret exists, and create the secret with the entry alone if it is
absent. A read that fails in another way leaves all as it is. -/
def write (store : SecretStore) (ns name key value : String) : StoreProgram Unit := do
  match ← get ns name with
  | .ok _ =>
    let encoded := String.ofList (Base64.encode (Bytes.ofText value))
    store.change (.patch ns name key encoded) (.notUpdated ns name key)
  | .error .notFound => store.change (.create ns name key value) (.notCreated ns name)
  | .error .failed => throw (.notRead ns name)

def summary (store : SecretStore) : String :=
  Text.showFields "KubeSecretStore" [s!"field_manager: {Text.quote store.fieldManager}", ".."]

end SecretStore

end CertSync
