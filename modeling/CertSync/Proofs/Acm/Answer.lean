import CertSync.Acm.Response
import CertSync.Proofs.Json.Shape

/-!
# What responses say

A response of the certificate service says one of a few things to the call that it answers: that
there is no such certificate, what was exported, or how the import is identified. What it says is
put here in terms of its body, and is what the reader of responses finds in it.
-/

namespace CertSync

/-! ## Fields that are read loosely -/

namespace Json

/-- All values of the field, in order. -/
def values (fields : List (String × Json)) (name : String) : List Json :=
  (fields.filter fun f => f.1 = name).map Prod.snd

/-- The field gives the text, or none: all its values are texts or null, and the last counts. -/
structure GivesText (fields : List (String × Json)) (name : String) (value : Option String) :
    Prop where
  typed : ∀ v ∈ values fields name, v = null ∨ ∃ s, v = text s
  last : ∀ s, value = some s ↔ (values fields name).getLast? = some (text s)

variable {fields : List (String × Json)} {name : String} {value : Option String}

theorem text?_eq_some {v : Json} {s : String} : v.text? = some s ↔ v = text s := by
  cases v <;> simp [text?]

theorem optional_text_of_typed {v : Json} (h : v = null ∨ ∃ s, v = text s) :
    optional text? (some v) = some v.text? := by
  rcases h with rfl | ⟨s, rfl⟩ <;> rfl

theorem optional_text_of_not_typed {v : Json} (h : ¬(v = null ∨ ∃ s, v = text s)) :
    optional text? (some v) = none := by
  cases v with
  | null => exact absurd (.inl rfl) h
  | text s => exact absurd (.inr ⟨s, rfl⟩) h
  | _ => rfl

theorem last?_text_iff : last? text? fields name = some value ↔ GivesText fields name value := by
  have hlast : last? text? fields name = do
      let texts ← (values fields name).mapM fun v : Json => optional text? (some v)
      return texts.getLast?.join := by
    rw [last?, values, List.mapM_map]
    rfl
  rw [hlast]
  by_cases htyped : ∀ v ∈ values fields name, v = null ∨ ∃ s, v = text s
  · rw [mapM_eq_some fun v hv => optional_text_of_typed (htyped v hv)]
    have htext (s : String) : ((values fields name).map text?).getLast?.join = some s ↔
        (values fields name).getLast? = some (text s) := by
      simp only [List.getLast?_map, Option.join_eq_some_iff, Option.map_eq_some_iff, text?_eq_some,
        exists_eq_right]
    refine ⟨fun h => ⟨htyped, fun s => ?_⟩, fun h => congrArg some (Option.ext fun s => ?_)⟩
    · cases h
      exact htext s
    · exact (htext s).trans (h.last s).symm
  · refine iff_of_false ?_ fun h => htyped h.typed
    obtain ⟨v, hv, hbad⟩ : ∃ v ∈ values fields name, ¬(v = null ∨ ∃ s, v = text s) := by
      simpa using htyped
    rw [mapM_eq_none hv (optional_text_of_not_typed hbad)]
    nofun

end Json

/-! ## Kinds of errors -/

/-- A kind is given with the namespace before it, up to a hash sign, and with the address behind it,
from a colon on. Either may be missing. -/
def NamesKind (label kind : List Char) : Prop :=
  ∃ ns address, label = ns ++ kind ++ address ∧ ':' ∉ ns ++ kind ∧
    (address = [] ∨ ∃ rest, address = ':' :: rest) ∧
    (ns = [] ∧ '#' ∉ kind ∨ ∃ name, ns = name ++ ['#'] ∧ '#' ∉ name)

theorem takeWhile_of_notMem {l rest : List Char} {stop : Char} (h : stop ∉ l)
    (hrest : rest = [] ∨ ∃ more, rest = stop :: more) :
    (l ++ rest).takeWhile (· ≠ stop) = l := by
  have hl : ∀ x ∈ l, decide (x ≠ stop) = true := fun x hx =>
    decide_eq_true fun heq => h (heq ▸ hx)
  rw [List.takeWhile_append_of_pos hl]
  rcases hrest with rfl | ⟨more, rfl⟩ <;> simp

theorem dropWhile_of_notMem {l : List Char} {stop : Char} (h : stop ∉ l) (rest : List Char) :
    (l ++ stop :: rest).dropWhile (· ≠ stop) = stop :: rest := by
  have hl : ∀ x ∈ l, decide (x ≠ stop) = true := fun x hx =>
    decide_eq_true fun heq => h (heq ▸ hx)
  rw [List.dropWhile_append_of_pos hl]
  simp

theorem NamesKind.bareKind_eq {label kind : List Char} (h : NamesKind label kind) :
    bareKind label = kind := by
  obtain ⟨ns, address, rfl, hcolon, haddress, hns⟩ := h
  have hbody := takeWhile_of_notMem hcolon haddress
  simp only [bareKind, hbody]
  rcases hns with ⟨rfl, hhash⟩ | ⟨name, rfl, hhash⟩
  · simp [hhash]
  · have hdrop := dropWhile_of_notMem hhash kind
    rw [List.append_assoc, List.singleton_append, hdrop]
    simp

theorem exists_split_at (stop : Char) (l : List Char) :
    ∃ before after, l = before ++ after ∧ stop ∉ before ∧
      (after = [] ∨ ∃ rest, after = stop :: rest) := by
  by_cases h : stop ∈ l
  · obtain ⟨before, rest, rfl, hbefore⟩ := List.eq_append_cons_of_mem h
    exact ⟨before, _, rfl, hbefore, .inr ⟨rest, rfl⟩⟩
  · exact ⟨l, [], (List.append_nil l).symm, h, .inl rfl⟩

theorem exists_namesKind (label : List Char) : ∃ kind, NamesKind label kind := by
  obtain ⟨body, address, rfl, hcolon, haddress⟩ := exists_split_at ':' label
  obtain ⟨name, rest, rfl, hhash, rfl | ⟨kind, rfl⟩⟩ := exists_split_at '#' body
  · rw [List.append_nil] at hcolon ⊢
    exact ⟨name, [], address, rfl, hcolon, haddress, .inl ⟨rfl, hhash⟩⟩
  · rw [List.append_cons] at hcolon ⊢
    exact ⟨kind, _, address, rfl, hcolon, haddress, .inr ⟨name, rfl, hhash⟩⟩

theorem bareKind_eq_iff {label kind : List Char} :
    bareKind label = kind ↔ NamesKind label kind := by
  refine ⟨?_, NamesKind.bareKind_eq⟩
  obtain ⟨found, hfound⟩ := exists_namesKind label
  rintro rfl
  rwa [hfound.bareKind_eq]

/-- The last text that the field is given. Other values are passed over. -/
def Json.GivesLabel (fields : List (String × Json)) (name label : String) : Prop :=
  ((Json.values fields name).filterMap Json.text?).getLast? = some label

/-- The object gives the kind of an error. A code counts before a type. -/
def GivesKind (fields : List (String × Json)) (kind : String) : Prop :=
  ∃ label, NamesKind label.toList kind.toList ∧
    (Json.GivesLabel fields "code" label ∨
      (∀ code, ¬Json.GivesLabel fields "code" code) ∧ Json.GivesLabel fields "__type" label)

theorem lookup_texts (fields : List (String × Json)) (name : String) :
    (fields.filterMap fun f => f.2.text?.map (f.1, ·)).reverse.lookup name =
      ((Json.values fields name).filterMap Json.text?).getLast? := by
  induction fields with
  | nil => rfl
  | cons f fields ih =>
    obtain ⟨n, v⟩ := f
    by_cases hn : n = name
    · subst hn
      cases hv : v.text? with
      | none => simpa [Json.values, hv] using ih
      | some s =>
        simp only [Json.values] at ih
        simp [Json.values, hv, List.lookup_append, List.getLast?_cons, ih]
    · have hne : (name == n) = false := beq_false_of_ne (Ne.symm hn)
      cases hv : v.text? with
      | none => simpa [Json.values, hv, hn] using ih
      | some s => simpa [Json.values, hv, hn, List.lookup_append, List.lookup_cons, hne] using ih

theorem errorKind?_iff {fields : List (String × Json)} {kind : String} :
    errorKind? fields = some kind ↔ GivesKind fields kind := by
  have hkind (label : String) : String.ofList (bareKind label.toList) = kind ↔
      NamesKind label.toList kind.toList := by
    rw [← bareKind_eq_iff, ← String.toList_inj, String.toList_ofList]
  rw [errorKind?, lookup_texts, lookup_texts]
  simp only [Option.bind_eq_bind, Option.bind_eq_some_iff, Option.pure_def, Option.some.injEq, hkind,
    Option.or_eq_some_iff, Option.eq_none_iff_forall_ne_some]
  exact ⟨fun ⟨label, hgives, hnames⟩ => ⟨label, hnames, hgives⟩,
    fun ⟨label, hnames, hgives⟩ => ⟨label, hgives, hnames⟩⟩

/-! ## Responses -/

namespace HttpResponse

variable {r : HttpResponse}

def Succeeds (r : HttpResponse) : Prop := 200 ≤ r.status ∧ r.status ≤ 299

/-- The body is an object with these fields. An empty body has none. -/
def Carries (r : HttpResponse) (fields : List (String × Json)) : Prop :=
  if r.body = "" then fields = [] else Json.ofText? r.body = some (.object fields)

/-- An error of this kind, whose message can be read, if it has one. -/
def IsServiceError (r : HttpResponse) (kind : String) : Prop :=
  ¬r.Succeeds ∧ ∃ fields, Json.ofText? r.body = some (.object fields) ∧ GivesKind fields kind ∧
    ∃ message, Json.GivesText fields "message" message

def IsNotFound (r : HttpResponse) : Prop := r.IsServiceError "ResourceNotFoundException"

/-- The certificate and the private key are there; the chain may be missing. -/
def Exports (r : HttpResponse) (m : ExportedMaterial) : Prop :=
  r.Succeeds ∧ ∃ fields, r.Carries fields ∧
    Json.GivesText fields "Certificate" (some m.certificate) ∧
    Json.GivesText fields "CertificateChain" m.chain ∧
    Json.GivesText fields "PrivateKey" (some m.privateKey)

theorem isSuccess_iff : r.isSuccess = true ↔ r.Succeeds := by
  simp [isSuccess, Succeeds, Nat.lt_succ_iff]

theorem ofText?_object_iff {s : String} {fields : List (String × Json)} :
    (Json.ofText? s >>= Json.object?) = some fields ↔ Json.ofText? s = some (.object fields) := by
  cases Json.ofText? s with
  | none => simp
  | some j => cases j <;> simp [Json.object?]

theorem fields_iff {fields : List (String × Json)} : r.fields = .ok fields ↔ r.Carries fields := by
  unfold HttpResponse.fields Carries
  by_cases hempty : r.body = ""
  · rw [if_pos (by simp [hempty]), if_pos hempty, Except.ok.injEq, eq_comm]
  · rw [if_neg (by simpa using hempty), if_neg hempty, ← ofText?_object_iff]
    cases Json.ofText? r.body >>= Json.object? <;> simp

theorem isNotFound_iff (hfails : ¬r.Succeeds) : r.isNotFound = true ↔ r.IsNotFound := by
  simp only [IsNotFound, IsServiceError, hfails, not_false_eq_true, true_and, ← ofText?_object_iff,
    ← errorKind?_iff, ← Json.last?_text_iff, ← Option.isSome_iff_exists]
  unfold isNotFound
  cases Json.ofText? r.body >>= Json.object? <;> simp

end HttpResponse

/-! ## Answers -/

theorem except_bind_eq_ok {ε α β : Type} {x : Except ε α} {f : α → Except ε β} {b : β} :
    (x >>= f) = .ok b ↔ ∃ a, x = .ok a ∧ f a = .ok b := by
  cases x with
  | error e => exact iff_of_false nofun nofun
  | ok a => exact ⟨fun h => ⟨a, rfl, h⟩, fun ⟨_, ha, h⟩ => by cases ha; exact h⟩

namespace AcmDefect

theorem field_iff {fields : List (String × Json)} {name : String} {value : Option String} :
    field Json.text? fields name = .ok value ↔ Json.GivesText fields name value := by
  rw [← Json.last?_text_iff, field]
  cases Json.last? Json.text? fields name <;> simp

theorem need_iff {α : Type} {part : String} {value : Option α} {a : α} :
    need part value = .ok a ↔ value = some a := by
  cases value <;> simp [need]

end AcmDefect

namespace ServiceCall

open AcmDefect (field_iff need_iff)

variable {r : HttpResponse} {arn : String} {passphrase : Bytes} {request : ImportRequest}

theorem ofResponse_of_succeeds (c : ServiceCall) (h : r.Succeeds) :
    c.ofResponse r = c.ofSuccess r :=
  if_pos (HttpResponse.isSuccess_iff.mpr h)

theorem ofResponse_of_not_succeeds (c : ServiceCall) (h : ¬r.Succeeds) :
    c.ofResponse r = c.ofFailure r :=
  if_neg (mt HttpResponse.isSuccess_iff.mp h)

theorem export_ofSuccess_iff {answer : ExportAnswer} :
    (exportCertificate arn passphrase).ofSuccess r = .ok answer ↔
      ∃ fields, r.Carries fields ∧ ∃ certificate chain privateKey,
        Json.GivesText fields "Certificate" (some certificate) ∧
        Json.GivesText fields "CertificateChain" chain ∧
        Json.GivesText fields "PrivateKey" (some privateKey) ∧
        ExportAnswer.exported ⟨certificate, chain, privateKey⟩ = answer := by
  refine except_bind_eq_ok.trans (exists_congr fun fields => and_congr HttpResponse.fields_iff ?_)
  have hanswer (a : ExportAnswer) :
      (pure a : Except AcmDefect ExportAnswer) = .ok answer ↔ a = answer := by
    simp [pure, Except.pure]
  simp only [except_bind_eq_ok, field_iff, need_iff, hanswer]
  constructor
  · rintro ⟨_, hcertificate, chain, hchain, _, hkey, certificate, rfl, privateKey, rfl, ha⟩
    exact ⟨certificate, chain, privateKey, hcertificate, hchain, hkey, ha⟩
  · rintro ⟨certificate, chain, privateKey, hcertificate, hchain, hkey, ha⟩
    exact ⟨_, hcertificate, chain, hchain, _, hkey, certificate, rfl, privateKey, rfl, ha⟩

theorem export_notFound_iff :
    (exportCertificate arn passphrase).ofResponse r = .ok ExportAnswer.notFound ↔
      r.IsNotFound := by
  by_cases h : r.Succeeds
  · rw [ofResponse_of_succeeds _ h]
    refine export_ofSuccess_iff.trans (iff_of_false ?_ fun hfound => hfound.1 h)
    rintro ⟨_, _, _, _, _, _, _, _, ⟨⟩⟩
  · rw [ofResponse_of_not_succeeds _ h, ofFailure, ← HttpResponse.isNotFound_iff h]
    split_ifs with hfound
    · exact iff_of_true rfl hfound
    · exact iff_of_false nofun hfound

theorem export_exported_iff {m : ExportedMaterial} :
    (exportCertificate arn passphrase).ofResponse r = .ok (ExportAnswer.exported m) ↔
      r.Exports m := by
  by_cases h : r.Succeeds
  · rw [ofResponse_of_succeeds _ h]
    refine export_ofSuccess_iff.trans ⟨?_, ?_⟩
    · rintro ⟨fields, hfields, _, _, _, hcertificate, hchain, hkey, ⟨⟩⟩
      exact ⟨h, fields, hfields, hcertificate, hchain, hkey⟩
    · rintro ⟨-, fields, hfields, hcertificate, hchain, hkey⟩
      exact ⟨fields, hfields, _, _, _, hcertificate, hchain, hkey, rfl⟩
  · rw [ofResponse_of_not_succeeds _ h, ofFailure]
    refine iff_of_false ?_ fun hexports => h hexports.1
    split_ifs <;> nofun

end ServiceCall

end CertSync
