import CertSync.Proofs.Bytes.Basic
import CertSync.Proofs.SecretStore.Access

/-!
# What is written is read

A value goes to the server as text when its secret is created and in base64 when it is patched, and
comes back in base64. Either way a reference to the entry resolves to the value, and others resolve
as they did before. A secret that the write has created is there for all of them, though, and a
reference to another key of it now fails for want of the key.
-/

namespace CertSync

open SecretRequest (item)

/-! ## Entries -/

namespace SecretServer

variable {server : SecretServer} {ns name key other : String}

def stored? (server : SecretServer) (ns name key : String) : Option Bytes :=
  server.find? ns name >>= fun entries => entries[key]?

theorem read_of_absent (h : server.find? ns name = none) :
    server.read ns name key = .error (.notRead ns name) := by
  rw [read, h]

theorem read_of_stored? {bytes : Bytes} (h : server.stored? ns name key = some bytes) :
    server.read ns name key = entryText ns name key (some bytes) := by
  obtain ⟨entries, hfind, hkey⟩ := Option.bind_eq_some_iff.mp h
  rw [read, hfind]
  exact congrArg (entryText ns name key) hkey

theorem read_of_not_text {bytes : Bytes} (h : server.stored? ns name key = some bytes)
    (hbytes : ∀ text, bytes ≠ Bytes.ofText text) :
    server.read ns name key = .error (.notText ns name key) := by
  have hnone : bytes.toText? = none := by
    rw [Option.eq_none_iff_forall_ne_some]
    exact fun text htext => hbytes text (Bytes.toText?_eq_some_iff.mp htext)
  rw [read_of_stored? h, entryText, hnone]

theorem stored?_of_read {text : String} (h : server.read ns name key = .ok text) :
    server.stored? ns name key = some (Bytes.ofText text) := by
  unfold read at h
  split at h
  · cases h
  · next entries hfind =>
    unfold entryText at h
    split at h
    · cases h
    · next bytes hkey =>
      split at h
      · cases h
      · next htext =>
        cases h
        rw [← Bytes.toText?_eq_some_iff.mp htext, stored?, hfind]
        exact hkey

/-! ## Entries after one was set -/

theorem read_put_self (h : IsSecretPath (item ns name)) (value : String) :
    (server.put ns name key (Bytes.ofText value)).read ns name key = .ok value := by
  rw [read, find?_put h, if_pos ⟨rfl, rfl⟩]
  dsimp only
  rw [Std.ExtTreeMap.getElem?_insert_self, entryText, Bytes.toText?_ofText]

theorem read_put_key (h : IsSecretPath (item ns name)) (hkey : other ≠ key) (bytes : Bytes) :
    (server.put ns name key bytes).read ns name other =
      if server.find? ns name = none then .error (.noKey ns name other)
      else server.read ns name other := by
  rw [read, read, find?_put h, if_pos ⟨rfl, rfl⟩]
  dsimp only
  rw [Std.ExtTreeMap.getElem?_insert, if_neg (by simpa using Ne.symm hkey)]
  cases server.find? ns name with
  | none => simp [entryText]
  | some entries => simp

theorem read_put_secret (h : IsSecretPath (item ns name)) {otherNs otherName : String}
    (hsecret : ¬ (otherNs = ns ∧ otherName = name)) (bytes : Bytes) :
    (server.put ns name key bytes).read otherNs otherName other =
      server.read otherNs otherName other := by
  rw [read, read, find?_put h, if_neg hsecret]

end SecretServer

/-! ## References -/

namespace SecretWrite

open SecretStore (resolve)

variable {w : SecretWrite} {refuses : SecretServer → HttpRequest → Bool}
  {server after : SecretServer}

/-- The reference is to the entry of the write. -/
def NamedBy (w : SecretWrite) (fallback : String) (ref : SecretRef) : Prop :=
  ref.nsOr fallback = w.ns ∧ ref.name = w.name ∧ ref.key = w.key

/-- The write creates the secret, and the reference is to another entry of it. -/
def CreatesFor (w : SecretWrite) (server : SecretServer) (fallback : String) (ref : SecretRef) :
    Prop :=
  server.find? w.ns w.name = none ∧ ref.nsOr fallback = w.ns ∧ ref.name = w.name ∧ ref.key ≠ w.key

/-- After a write that succeeds, a reference to its entry resolves to the value, and any other to
what it did before: the same text or the same error. What alone differs is the error for another
entry of a secret that the write has created. Bytes that are no text's are never resolved, on any
server. -/
theorem resolve_after_write (h : w.perform refuses server = (.ok (), after)) :
    (∀ fallback ref, w.NamedBy fallback ref →
      w.store.perform refuses (resolve fallback ref) after = (.ok w.value, after)) ∧
    (∀ fallback ref, ¬ w.NamedBy fallback ref → ¬ w.CreatesFor server fallback ref →
      w.store.perform refuses (resolve fallback ref) after =
        ((w.store.perform refuses (resolve fallback ref) server).1, after)) ∧
    (∀ fallback ref, w.CreatesFor server fallback ref →
      w.store.perform refuses (resolve fallback ref) server =
          (.error (.notRead w.ns w.name), server) ∧
        w.store.perform refuses (resolve fallback ref) after =
          (.error (.noKey w.ns w.name ref.key), after)) ∧
    ∀ (other : SecretServer) (fallback : String) (ref : SecretRef) (bytes : Bytes),
      other.stored? (ref.nsOr fallback) ref.name ref.key = some bytes →
        ((∀ text, bytes ≠ Bytes.ofText text) →
          w.store.perform refuses (resolve fallback ref) other =
            (.error (.notText (ref.nsOr fallback) ref.name ref.key), other)) ∧
        ∀ text, (w.store.perform refuses (resolve fallback ref) other).1 = .ok text →
          bytes = Bytes.ofText text := by
  obtain ⟨hpath, rfl⟩ := put_of_perform h
  simp only [SecretStore.perform_resolve, Prod.mk.injEq, and_true]
  refine ⟨fun fallback ref hnamed => ?_, fun fallback ref hnamed hcreates => ?_,
    fun fallback ref hcreates => ?_,
    fun other fallback ref bytes hstored => ⟨fun hbytes => ?_, fun text hread => ?_⟩⟩
  · obtain ⟨hns, hname, hkey⟩ := hnamed
    rw [hns, hname, hkey]
    exact SecretServer.read_put_self hpath w.value
  · by_cases hsecret : ref.nsOr fallback = w.ns ∧ ref.name = w.name
    · obtain ⟨hns, hname⟩ := hsecret
      have hkey : ref.key ≠ w.key := fun hkey => hnamed ⟨hns, hname, hkey⟩
      have hthere : server.find? w.ns w.name ≠ none :=
        fun hnone => hcreates ⟨hnone, hns, hname, hkey⟩
      rw [hns, hname, SecretServer.read_put_key hpath hkey, if_neg hthere]
    · exact SecretServer.read_put_secret hpath hsecret w.bytes
  · obtain ⟨hnone, hns, hname, hkey⟩ := hcreates
    rw [hns, hname, SecretServer.read_put_key hpath hkey, if_pos hnone]
    exact ⟨SecretServer.read_of_absent hnone, rfl⟩
  · exact SecretServer.read_of_not_text hstored hbytes
  · rw [SecretServer.stored?_of_read hread] at hstored
    exact (Option.some.inj hstored).symm

/-- A certificate whose text is not all ASCII. -/
def renewal : SecretWrite where
  store := ⟨"certsync"⟩
  ns := "team-a"
  name := "tls"
  key := "tls.crt"
  value := "Zürich €"

/-- A server whose only secret holds one byte that is no text. -/
def oneByte : SecretServer :=
  (∅ : SecretServer).insert (item "team-a" "tls") ((∅ : SecretEntries).insert "tls.key" [0xff])

theorem perform_renewal (server : SecretServer) :
    renewal.perform (fun _ _ => false) server =
      (.ok (), server.put "team-a" "tls" "tls.crt" (Bytes.ofText "Zürich €")) := by
  rw [perform_of_isSecretPath (by decide), if_neg (by decide)]
  rfl

theorem find?_oneByte :
    oneByte.find? "team-a" "tls" = some ((∅ : SecretEntries).insert "tls.key" [0xff]) := by
  have hpath : SecretServer.IsSecretPath (item "team-a" "tls") := by decide
  rw [SecretServer.find?, if_pos hpath, oneByte, Std.ExtTreeMap.getElem?_insert_self]

theorem perform_resolve_oneByte :
    renewal.store.perform (fun _ _ => false) (resolve "default" ⟨"tls", some "team-a", "tls.key"⟩)
      oneByte = (.error (.notText "team-a" "tls" "tls.key"), oneByte) := by
  have hstored : oneByte.stored? "team-a" "tls" "tls.key" = some [0xff] := by
    simp [SecretServer.stored?, find?_oneByte]
  have hbytes : ∀ text, ([0xff] : Bytes) ≠ Bytes.ofText text := by
    intro text htext
    have hnone : Bytes.toText? [0xff] = none := by decide
    rw [Bytes.toText?_eq_some_iff.mpr htext] at hnone
    cases hnone
  rw [SecretStore.perform_resolve]
  exact congrArg (·, oneByte) (SecretServer.read_of_not_text hstored hbytes)

/-- The patched entry resolves, and the byte beside it fails as before. -/
theorem renewal_resolves :
    let after := oneByte.put "team-a" "tls" "tls.crt" (Bytes.ofText "Zürich €")
    renewal.perform (fun _ _ => false) oneByte = (.ok (), after) ∧
      renewal.store.perform (fun _ _ => false) (resolve "team-a" ⟨"tls", none, "tls.crt"⟩) after =
        (.ok "Zürich €", after) ∧
      renewal.store.perform (fun _ _ => false)
          (resolve "default" ⟨"tls", some "team-a", "tls.key"⟩) after =
        (.error (.notText "team-a" "tls" "tls.key"), after) := by
  have h := perform_renewal oneByte
  obtain ⟨hnamed, hother, -, -⟩ := resolve_after_write h
  refine ⟨h, hnamed _ _ ⟨rfl, rfl, rfl⟩, ?_⟩
  rw [hother "default" ⟨"tls", some "team-a", "tls.key"⟩
    (fun hnamed => absurd hnamed.2.2 (by decide))
    (fun hcreates => nomatch find?_oneByte.symm.trans hcreates.1), perform_resolve_oneByte]

/-- Where there was no secret, another key of it fails with another error after the write. -/
theorem created_secret_resolves_otherwise :
    ¬ ∀ (w : SecretWrite) (refuses : SecretServer → HttpRequest → Bool)
        (server after : SecretServer), w.perform refuses server = (.ok (), after) →
      ∀ fallback ref, ¬ w.NamedBy fallback ref →
        (w.store.perform refuses (resolve fallback ref) after).1 =
          (w.store.perform refuses (resolve fallback ref) server).1 := by
  intro h
  have hsame := h renewal _ ∅ _ (perform_renewal ∅) "team-a" ⟨"tls", none, "tls.key"⟩
    (fun hnamed => absurd hnamed.2.2 (by decide))
  have hnone : (∅ : SecretServer).find? "team-a" "tls" = none := by simp [SecretServer.find?]
  have hns : (⟨"tls", none, "tls.key"⟩ : SecretRef).nsOr "team-a" = "team-a" := rfl
  rw [SecretStore.perform_resolve, SecretStore.perform_resolve, hns,
    SecretServer.read_put_key (by decide) (by decide), if_pos hnone,
    SecretServer.read_of_absent hnone] at hsame
  cases hsame

end SecretWrite

end CertSync
