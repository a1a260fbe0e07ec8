import CertSync.Proofs.Import.Run
import CertSync.Proofs.Session.Moment
import CertSync.Proofs.Sharing.Surroundings
import CertSync.Proofs.Tag.Lookup
import CertSync.Proofs.Validation.Preflight
import CertSync.SecretStore.Access

/-!
# The course of an import

The material is looked up piece by piece, up to the first piece that the import cannot do without
and does not get. If there is none, all of it is sent in one call, and the answer is merged into the
resource.
-/

namespace CertSync

variable {σ : Type}

/-! ## What is looked up -/

/-- A piece of what an import sends, in an entry that a field of the resource refers to. -/
structure Material where
  field : String
  ref : SecretRef
  required : Bool

namespace Certificate

/-- All that an import looks up, in order, given the two references that it has to have. -/
def materials (c : Certificate) (certificate privateKey : SecretRef) : List Material :=
  ⟨"certificate", certificate, true⟩ :: ⟨"privateKey", privateKey, true⟩ ::
    c.spec.certificateChain.toList.map fun ref => ⟨"certificateChain", ref, false⟩

def lookup (c : Certificate) (material : Material) : Call :=
  .secret (.resolve c.nsOrDefault material.ref)

/-- What an import makes of the answer. An empty text will do for a piece that is not required. -/
def judge (c : Certificate) (material : Material) : Outcome String → Except HookError String
  | .completed text =>
    if material.required ∧ text = "" then
      .error (c.importSite.error (.terminal (.missingImportField material.field)))
    else .ok text
  | .failed _ =>
    .error (c.importSite.error (.terminal (.unresolvedSecret material.field material.ref.toText)))
  | .stopped => .error (c.importSite.error .cancelled)

/-- The pieces are looked up one after the other, and the first that is not had ends it. -/
inductive Gathers (world : Collaborators σ) (c : Certificate) :
    List Material → Moment σ → List (Call × σ) → Except HookError (List String) → Moment σ → Prop
  | nothing (m : Moment σ) : Gathers world c [] m [] (.ok []) m
  | ends {material : Material} {rest : List Material} {m m' : Moment σ} {made : List (Call × σ)}
      {outcome : Outcome String} {e : HookError}
      (hgoes : (c.lookup material).Goes world m made outcome m')
      (hjudge : c.judge material outcome = .error e) :
      Gathers world c (material :: rest) m made (.error e) m'
  | next {material : Material} {rest : List Material} {m m' m'' : Moment σ}
      {made more : List (Call × σ)} {outcome : Outcome String} {text : String}
      {result : Except HookError (List String)}
      (hgoes : (c.lookup material).Goes world m made outcome m')
      (hjudge : c.judge material outcome = .ok text)
      (hrest : Gathers world c rest m' more result m'') :
      Gathers world c (material :: rest) m (made ++ more) (result.map fun texts => text :: texts)
        m''

end Certificate

/-! ## What is sent -/

/-- The request has these texts, and the tags of the resource. -/
structure ImportRequest.Carries (request : ImportRequest) (c : Certificate)
    (certificate privateKey : String) (chain : Option String) : Prop where
  certificate : request.certificate = Bytes.ofText certificate
  privateKey : request.privateKey = Bytes.ofText privateKey
  chain : ∀ bytes, request.chain = some bytes ↔
    ∃ text, chain = some text ∧ text ≠ "" ∧ bytes = Bytes.ofText text
  tags : ∀ key, request.tags.get? key =
    (c.spec.tags.filter fun tag => tag.key = key).getLast?.map fun tag => tag.value.getD ""

namespace Certificate

def importCall (request : ImportRequest) : Call := .service (.importCertificate request)

/-- What an import ends in. Nothing of the resource changes but two fields of its status. -/
def merge (c : Certificate) : Outcome String → Except HookError (Option ImportOutcome)
  | .completed arn =>
    let status := c.status.getD {}
    let tags := if status.tags = [] then c.spec.tags else status.tags
    .ok (some {
      resource := { c with status := some { status with certificateArn := some arn, tags } }
      created := true })
  | .failed error => .error (c.importSite.error (.retryable error))
  | .stopped => .error (c.importSite.error .cancelled)

inductive ImportCourse (world : Collaborators σ) (c : Certificate) (materials : List Material)
    (m : Moment σ) :
    List (Call × σ) → Except HookError (Option ImportOutcome) → Moment σ → Prop
  | ungathered {made : List (Call × σ)} {e : HookError} {m' : Moment σ}
      (hgathers : c.Gathers world materials m made (.error e) m') :
      ImportCourse world c materials m made (.error e) m'
  | sent {gathered more : List (Call × σ)} {certificate privateKey : String}
      {chain : Option String} {request : ImportRequest} {outcome : Outcome String}
      {m' m'' : Moment σ}
      (hgathers : c.Gathers world materials m gathered
        (.ok (certificate :: privateKey :: chain.toList)) m')
      (hcarries : request.Carries c certificate privateKey chain)
      (hgoes : (importCall request).Goes world m' more outcome m'') :
      ImportCourse world c materials m (gathered ++ more) (c.merge outcome) m''

end Certificate

/-! ## How the parts of the hook run -/

variable {world : Collaborators σ} {α : Type} {config : Config} {c : Certificate}
  {material : Material} {materials rest : List Material}

/-- The hook looks up one piece of material. -/
def Hook.LooksUp (world : Collaborators σ) (c : Certificate) (material : Material)
    (hook : Hook String) : Prop :=
  ∀ (s t : Session σ) (result : Except HookError String),
    Session.run world hook s = (result, t) →
      ∃ made outcome, (c.lookup material).Goes world s.moment made outcome t.moment ∧
        t.calls = s.calls ++ made.map Prod.fst ∧ result = c.judge material outcome

/-- The hook gathers the materials, and makes of their texts what it returns. -/
def Hook.Gathers (world : Collaborators σ) (c : Certificate) (materials : List Material)
    (Makes : List String → α → Prop) (hook : Hook α) : Prop :=
  ∀ (s t : Session σ) (result : Except HookError α),
    Session.run world hook s = (result, t) →
      ∃ made gathered, c.Gathers world materials s.moment made gathered t.moment ∧
        t.calls = s.calls ++ made.map Prod.fst ∧
        match result with
        | .ok a => ∃ texts, gathered = .ok texts ∧ Makes texts a
        | .error e => gathered = .error e

namespace Hook

variable {Makes : List String → α → Prop}

theorem Gathers.pure {a : α} (h : Makes [] a) : Gathers world c [] Makes (Pure.pure a) := by
  intro s t result hrun
  cases hrun
  exact ⟨[], .ok [], .nothing _, (List.append_nil _).symm, [], rfl, h⟩

theorem LooksUp.bind {hook : Hook String} {next : String → Hook α}
    (h : LooksUp world c material hook)
    (hnext : ∀ text, (next text).Gathers world c rest fun texts a => Makes (text :: texts) a) :
    (hook >>= next).Gathers world c (material :: rest) Makes := by
  intro s t result hrun
  rcases hhook : Session.run world hook s with ⟨found, u⟩
  obtain ⟨made, outcome, hgoes, hcalls, hjudge⟩ := h s u found hhook
  cases found with
  | error e =>
    cases (Session.run_bind_error hhook _).symm.trans hrun
    exact ⟨made, .error e, .ends hgoes hjudge.symm, hcalls, rfl⟩
  | ok text =>
    rw [Session.run_bind_ok hhook] at hrun
    obtain ⟨more, gathered, hgathers, hmore, hresult⟩ := hnext text u t result hrun
    refine ⟨made ++ more, _, .next hgoes hjudge.symm hgathers, ?_, ?_⟩
    · rw [hmore, hcalls, List.map_append, List.append_assoc]
    · cases result with
      | error e => rw [hresult]; rfl
      | ok a =>
        obtain ⟨texts, rfl, hmakes⟩ := hresult
        exact ⟨_, rfl, hmakes⟩

end Hook

namespace Certificate

theorem resolve_looksUp (c : Certificate) (field : String) (ref : SecretRef) :
    (c.importSite.resolve c.nsOrDefault field ref).LooksUp world c ⟨field, ref, false⟩ := by
  intro s t result hrun
  obtain ⟨made, outcome, hgoes, hcalls, hresult⟩ := Session.resolve_goes hrun
  refine ⟨made, outcome, hgoes, hcalls, ?_⟩
  rw [hresult]
  cases outcome <;> rfl

theorem judge_ok {outcome : Outcome String} {text : String}
    (h : c.judge material outcome = .ok text) :
    outcome = .completed text ∧ (material.required = true → text ≠ "") := by
  cases outcome with
  | completed found =>
    by_cases hspoilt : material.required = true ∧ found = ""
    · cases (if_pos hspoilt).symm.trans h
    · cases (if_neg hspoilt).symm.trans h
      exact ⟨rfl, fun hrequired hempty => hspoilt ⟨hrequired, hempty⟩⟩
  | failed error => cases h
  | stopped => cases h

theorem judge_error {field : String} {ref : SecretRef} {outcome : Outcome String} {e : HookError}
    (h : c.judge ⟨field, ref, false⟩ outcome = .error e) (required : Bool) :
    c.judge ⟨field, ref, required⟩ outcome = .error e := by
  cases outcome with
  | completed text => simp [judge] at h
  | failed error => exact h
  | stopped => exact h

theorem resolveMaterial_looksUp (c : Certificate) (field : String) (ref : SecretRef) :
    (c.resolveMaterial field ref).LooksUp world c ⟨field, ref, true⟩ := by
  intro s t result hrun
  unfold resolveMaterial at hrun
  rcases hresolve : Session.run world (c.importSite.resolve c.nsOrDefault field ref) s with
    ⟨found, u⟩
  obtain ⟨made, outcome, hgoes, hcalls, hjudge⟩ := c.resolve_looksUp field ref s u found hresolve
  cases found with
  | error e =>
    cases (Session.run_bind_error hresolve _).symm.trans hrun
    exact ⟨made, outcome, hgoes, hcalls, (judge_error hjudge.symm true).symm⟩
  | ok text =>
    rw [Session.run_bind_ok hresolve] at hrun
    obtain ⟨rfl, -⟩ := judge_ok hjudge.symm
    refine ⟨made, .completed text, ?_⟩
    by_cases hempty : text = ""
    · subst hempty
      cases hrun
      exact ⟨hgoes, hcalls, rfl⟩
    · have hvisible : text.isEmpty = false := by simpa using hempty
      rw [hvisible] at hrun
      cases hrun
      exact ⟨hgoes, hcalls, (if_neg fun h => hempty h.2).symm⟩

/-- What an import makes of the texts that it gathered. -/
def Sends (c : Certificate) (texts : List String) (request : ImportRequest) : Prop :=
  ∃ certificate privateKey chain,
    texts = certificate :: privateKey :: Option.toList chain ∧
      request.Carries c certificate privateKey chain

theorem importRequest_gathers {certificate privateKey : SecretRef}
    (hcertificate : c.spec.certificate = some certificate)
    (hkey : c.spec.privateKey = some privateKey) :
    c.importRequest.Gathers world c (c.materials certificate privateKey) c.Sends := by
  have hrequest : c.importRequest = (do
      let certificate ← c.resolveMaterial "certificate" certificate
      let privateKey ← c.resolveMaterial "privateKey" privateKey
      let chain ← c.resolveChain
      return {
        certificate := Bytes.ofText certificate
        chain
        privateKey := Bytes.ofText privateKey
        tags := .ofTags c.spec.tags }) := by
    unfold importRequest
    rw [hcertificate, hkey]
    rfl
  rw [hrequest, materials]
  refine (c.resolveMaterial_looksUp _ _).bind fun certificate => ?_
  refine (c.resolveMaterial_looksUp _ _).bind fun privateKey => ?_
  unfold resolveChain
  cases hchain : c.spec.certificateChain with
  | none =>
    refine .pure ⟨certificate, privateKey, none, rfl, rfl, rfl, ?_, ?_⟩
    · simp
    · exact TagSet.get?_ofTags c.spec.tags
  | some ref =>
    simp only [bind_assoc, pure_bind]
    refine (c.resolve_looksUp _ _).bind fun chain => ?_
    refine .pure ⟨certificate, privateKey, some chain, rfl, rfl, rfl, ?_, ?_⟩
    · intro bytes
      by_cases hempty : chain = ""
      · simp [nonEmpty, hempty]
      · simp [nonEmpty, hempty, Option.filter_some, @eq_comm _ bytes]
    · exact TagSet.get?_ofTags c.spec.tags

theorem merge_completed (c : Certificate) (arn : String) :
    c.merge (.completed arn) = .ok (some { resource := c.imported arn, created := true }) := by
  simp only [merge, imported, mapStatus, List.isEmpty_iff]

theorem submit_goes {request : ImportRequest} {s t : Session σ}
    {result : Except HookError (Option ImportOutcome)}
    (hrun : Session.run world (c.submit config request) s = (result, t)) :
    ∃ made outcome, (importCall request).Goes world s.moment made outcome t.moment ∧
      t.calls = s.calls ++ made.map Prod.fst ∧ result = c.merge outcome := by
  obtain ⟨logged, hlog, halike⟩ : ∃ logged, Session.run world (Hook.debug _) s = (.ok (), logged) ∧
      Session.Alike s logged := Session.exists_run_log world (.message .debug _) s
  unfold submit at hrun
  rw [Session.run_bind_ok hlog] at hrun
  rcases hservice :
    Session.run world (c.importSite.service (.importCertificate request)) logged with ⟨sent, u⟩
  obtain ⟨made, outcome, hgoes, hcalls, hsent⟩ := Session.service_goes hservice
  rw [halike.moment] at hgoes
  rw [halike.calls] at hcalls
  refine ⟨made, outcome, ?_⟩
  cases outcome with
  | completed arn =>
    cases hsent
    cases (Session.run_bind_ok hservice _).symm.trans hrun
    exact ⟨hgoes, hcalls, (c.merge_completed arn).symm⟩
  | failed error =>
    cases hsent
    cases (Session.run_bind_error hservice _).symm.trans hrun
    exact ⟨hgoes, hcalls, rfl⟩
  | stopped =>
    cases hsent
    cases (Session.run_bind_error hservice _).symm.trans hrun
    exact ⟨hgoes, hcalls, rfl⟩

theorem importHook_takes {certificate privateKey : SecretRef} (hmode : c.mode = .ok .imported)
    (hcertificate : c.spec.certificate = some certificate)
    (hkey : c.spec.privateKey = some privateKey) {s t : Session σ}
    {result : Except HookError (Option ImportOutcome)}
    (hrun : Session.run world (importHook config c) s = (result, t)) :
    ∃ made, t.calls = s.calls ++ made.map Prod.fst ∧
      c.ImportCourse world (c.materials certificate privateKey) s.moment made result t.moment := by
  obtain ⟨logged, hlog, halike⟩ := Session.exists_run_log world c.importSpan s
  rw [importHook_of_imported hmode, Session.run_bind_ok hlog] at hrun
  rcases hrequest : Session.run world c.importRequest logged with ⟨e | request, u⟩
  · rw [Session.run_bind_error hrequest] at hrun
    cases hrun
    obtain ⟨made, _, hgathers, hcalls, rfl⟩ :=
      importRequest_gathers hcertificate hkey logged _ _ hrequest
    rw [halike.moment] at hgathers
    exact ⟨made, by rw [hcalls, halike.calls], .ungathered hgathers⟩
  · rw [Session.run_bind_ok hrequest] at hrun
    obtain ⟨made, _, hgathers, hcalls, texts, rfl, text, key, chain, rfl, hcarries⟩ :=
      importRequest_gathers hcertificate hkey logged _ _ hrequest
    obtain ⟨more, outcome, hgoes, hmore, rfl⟩ := submit_goes hrun
    rw [halike.moment] at hgathers
    refine ⟨made ++ more, ?_, .sent hgathers hcarries hgoes⟩
    rw [hmore, hcalls, halike.calls, List.map_append, List.append_assoc]

/-! ## What the courses have in common -/

variable {m m' : Moment σ} {made : List (Call × σ)} {texts : List String}

theorem Gathers.calls_prefix {gathered : Except HookError (List String)}
    (h : c.Gathers world materials m made gathered m') :
    made.map Prod.fst <+: materials.map c.lookup := by
  induction h with
  | nothing => exact List.nil_prefix
  | ends hgoes _ => exact hgoes.calls_prefix.trans (List.prefix_append [_] _)
  | next hgoes hjudge _ ih =>
    obtain ⟨rfl, -⟩ := judge_ok hjudge
    obtain ⟨rfl, -⟩ := hgoes.of_completed
    exact (List.cons_prefix_cons).mpr ⟨rfl, ih⟩

/-- The call looked the piece up, and was answered with the text. -/
structure Found (world : Collaborators σ) (c : Certificate) (step : Call × σ) (material : Material)
    (text : String) : Prop where
  call : step.1 = c.lookup material
  answer : (world (c.lookup material) step.2).1.ending = .returns text

theorem Gathers.of_ok (h : c.Gathers world materials m made (.ok texts) m') :
    made.map Prod.fst = materials.map c.lookup ∧ texts.length = materials.length ∧
      (∀ piece ∈ made.zip (materials.zip texts), c.Found world piece.1 piece.2.1 piece.2.2) ∧
      ∀ piece ∈ materials.zip texts, piece.1.required = true → piece.2 ≠ "" := by
  generalize hgathered : Except.ok texts = gathered at h
  induction h generalizing texts with
  | nothing =>
    cases hgathered
    exact ⟨rfl, rfl, List.forall_mem_nil _, List.forall_mem_nil _⟩
  | ends => cases hgathered
  | @next material rest _ _ _ _ more outcome text result hgoes hjudge _ ih =>
    cases result with
    | error e => cases hgathered
    | ok found =>
      cases hgathered
      obtain ⟨hcalls, hlength, hfound, hrequired⟩ := ih rfl
      obtain ⟨rfl, htext⟩ := judge_ok hjudge
      obtain ⟨rfl, hanswer, -⟩ := hgoes.of_completed
      refine ⟨congrArg _ hcalls, congrArg Nat.succ hlength, ?_, ?_⟩
      · exact List.forall_mem_cons.mpr ⟨⟨rfl, hanswer⟩, hfound⟩
      · exact List.forall_mem_cons.mpr ⟨htext, hrequired⟩

theorem importCall_ne_lookup (c : Certificate) (request : ImportRequest) (material : Material) :
    importCall request ≠ c.lookup material :=
  nofun

theorem Gathers.importCall_notMem {gathered : Except HookError (List String)}
    (h : c.Gathers world materials m made gathered m') (request : ImportRequest) :
    importCall request ∉ made.map Prod.fst := by
  intro hmem
  obtain ⟨material, -, hlookup⟩ := List.mem_map.mp (h.calls_prefix.subset hmem)
  exact c.importCall_ne_lookup request material hlookup.symm

namespace ImportCourse

variable {result : Except HookError (Option ImportOutcome)}

theorem calls_prefix (h : c.ImportCourse world materials m made result m') :
    ∃ request, made.map Prod.fst <+: materials.map c.lookup ++ [importCall request] := by
  cases h with
  | ungathered hgathers =>
    -- Nothing was sent, so the request may be any.
    exact ⟨⟨[], none, [], ∅⟩, hgathers.calls_prefix.trans (List.prefix_append _ _)⟩
  | @sent _ _ _ _ _ request _ _ _ hgathers _ hgoes =>
    refine ⟨request, ?_⟩
    rw [List.map_append, hgathers.of_ok.1]
    exact (List.prefix_append_right_inj _).mpr hgoes.calls_prefix

theorem of_sent {request : ImportRequest} (h : c.ImportCourse world materials m made result m')
    (hsent : importCall request ∈ made.map Prod.fst) :
    ∃ gathered before certificate privateKey chain,
      c.Gathers world materials m gathered
        (.ok (certificate :: privateKey :: Option.toList chain)) before ∧
      before.cancelled = false ∧ made = gathered ++ [(importCall request, before.world)] ∧
      request.Carries c certificate privateKey chain := by
  cases h with
  | ungathered hgathers => exact absurd hsent (hgathers.importCall_notMem request)
  | @sent gathered more certificate privateKey chain request' _ before _ hgathers hcarries hgoes =>
    rw [List.map_append, List.mem_append] at hsent
    -- Nothing is imported while the material is looked up, so the call is the one that comes last.
    obtain ⟨hcall, hstarted, rfl⟩ :=
      hgoes.of_mem (hsent.resolve_left (hgathers.importCall_notMem request))
    cases hcall
    exact ⟨gathered, before, certificate, privateKey, chain, hgathers, hstarted, rfl, hcarries⟩

theorem of_ok {outcome : Option ImportOutcome}
    (h : c.ImportCourse world materials m made (.ok outcome) m') :
    ∃ gathered request w, ∃ arn : String, made = gathered ++ [(importCall request, w)] ∧
      gathered.map Prod.fst = materials.map c.lookup ∧
      (∃ certificate privateKey chain, request.Carries c certificate privateKey chain) ∧
      (world (importCall request) w).1.ending = .returns arn ∧
      m'.world = (world (importCall request) w).2 ∧ .ok outcome = c.merge (.completed arn) := by
  generalize hresult : Except.ok outcome = result at h
  cases h with
  | ungathered => cases hresult
  | @sent gathered _ _ _ _ request ended before _ hgathers hcarries hgoes =>
    cases ended with
    | completed arn =>
      obtain ⟨rfl, hanswer, hworld⟩ := hgoes.of_completed
      exact ⟨gathered, request, before.world, arn, rfl, hgathers.of_ok.1, ⟨_, _, _, hcarries⟩,
        hanswer, hworld, rfl⟩
    | failed error => cases hresult
    | stopped => cases hresult

end ImportCourse

/-! ## The import -/

/-- A reference is read in the namespace that it gives, or else in that of the resource. -/
structure ReadsIn (c : Certificate) (ref : SecretRef) (ns : String) : Prop where
  own : ∀ own, ref.ns = some own → own ≠ "" → ns = own
  fallback : ref.ns = none ∨ ref.ns = some "" → ns = c.nsOrDefault

theorem readsIn_nsOr (c : Certificate) (ref : SecretRef) :
    c.ReadsIn ref (ref.nsOr c.nsOrDefault) where
  own own hown hnonempty := by simp [SecretRef.nsOr, nonEmpty, hown, Option.filter_some, hnonempty]
  fallback hnone := by
    rcases hnone with hnone | hnone <;> simp [SecretRef.nsOr, nonEmpty, hnone, Option.filter_some]

/-- How an import goes that has the two references it needs. -/
structure Imports (world : Collaborators σ) (c : Certificate) (certificate privateKey : SecretRef)
    (m : Moment σ) (made : List (Call × σ)) (result : Except HookError (Option ImportOutcome))
    (m' : Moment σ) : Prop where
  course : c.ImportCourse world (c.materials certificate privateKey) m made result m'
  order : ∃ request, made.map Prod.fst <+:
    (c.materials certificate privateKey).map c.lookup ++ [importCall request]
  once : (made.map Prod.fst).countP Call.imports ≤ 1
  /-- Each piece is looked up in the right place, also by the store that serves an operator. -/
  places : ∀ material ∈ c.materials certificate privateKey, ∃ ns, c.ReadsIn material.ref ns ∧
    Call.entry? (c.lookup material) = some ⟨ns, material.ref.name, material.ref.key⟩ ∧
    SecretStore.resolve c.nsOrDefault material.ref =
      SecretStore.resolve ns ⟨material.ref.name, none, material.ref.key⟩
  sends : ∀ request, importCall request ∈ made.map Prod.fst →
    ∃ gathered w certificateText keyText chain,
      made = gathered ++ [(importCall request, w)] ∧
      gathered.map Prod.fst = (c.materials certificate privateKey).map c.lookup ∧
      (∀ piece ∈ gathered.zip ((c.materials certificate privateKey).zip
          (certificateText :: keyText :: Option.toList chain)),
        c.Found world piece.1 piece.2.1 piece.2.2) ∧
      certificateText ≠ "" ∧ keyText ≠ "" ∧ chain.isSome = c.spec.certificateChain.isSome ∧
      request.Carries c certificateText keyText chain
  merges : ∀ outcome, result = .ok outcome →
    ∃ gathered request w, ∃ arn : String, made = gathered ++ [(importCall request, w)] ∧
      (world (importCall request) w).1.ending = .returns arn ∧
      outcome = some {
        resource := { c with
          status := some { c.status.getD {} with
            certificateArn := some arn
            tags := if (c.status.getD {}).tags = [] then c.spec.tags
              else (c.status.getD {}).tags } }
        created := true }

variable {certificate privateKey : SecretRef} {result : Except HookError (Option ImportOutcome)}

theorem countP_imports_le {request : ImportRequest} {calls : List Call}
    (h : calls <+: materials.map c.lookup ++ [importCall request]) :
    calls.countP Call.imports ≤ 1 := by
  have hlookups : (materials.map c.lookup).countP Call.imports = 0 := by
    rw [List.countP_eq_zero]
    intro call hcall
    obtain ⟨material, -, rfl⟩ := List.mem_map.mp hcall
    exact Bool.false_ne_true
  calc calls.countP Call.imports
      ≤ (materials.map c.lookup ++ [importCall request]).countP Call.imports :=
        h.sublist.countP_le
    _ = 1 := by rw [List.countP_append, hlookups]; rfl

theorem ImportCourse.imports
    (h : c.ImportCourse world (c.materials certificate privateKey) m made result m') :
    c.Imports world certificate privateKey m made result m' where
  course := h
  order := h.calls_prefix
  once := by
    obtain ⟨request, hprefix⟩ := h.calls_prefix
    exact countP_imports_le hprefix
  places material _ := ⟨_, c.readsIn_nsOr material.ref, rfl, rfl⟩
  sends request hsent := by
    obtain ⟨gathered, before, certificateText, keyText, chain, hgathers, -, hmade, hcarries⟩ :=
      h.of_sent hsent
    obtain ⟨hcalls, hlength, hfound, hrequired⟩ := hgathers.of_ok
    refine ⟨gathered, before.world, certificateText, keyText, chain, hmade, hcalls, hfound, ?_, ?_,
      ?_, hcarries⟩
    · exact hrequired _ List.mem_cons_self rfl
    · exact hrequired _ (List.mem_cons_of_mem _ List.mem_cons_self) rfl
    · cases chain <;> cases hchain : c.spec.certificateChain <;>
        simp [materials, hchain] at hlength ⊢
  merges outcome hok := by
    subst hok
    obtain ⟨gathered, request, w, arn, hmade, -, -, hanswer, -, hmerge⟩ := h.of_ok
    cases hmerge
    exact ⟨gathered, request, w, arn, hmade, hanswer, rfl⟩

/-- An import calls nobody unless the resource is to be imported. Then it looks up its material in
order, sends what it got in at most one call, and merges the answer into the resource. -/
theorem importHook_imports (world : Collaborators σ) (config : Config) (c : Certificate)
    (s : Session σ) :
    let result := (Session.run world (importHook config c) s).1
    let t := (Session.run world (importHook config c) s).2
    (∀ reason, c.mode = .error reason →
      result = .error (c.importSite.error (.terminal reason)) ∧ t = s) ∧
    (∀ mode, c.mode = .ok mode → mode ≠ .imported → result = .ok none ∧ t = s) ∧
    (c.mode = .ok .imported → c.spec.certificate = none →
      result = .error c.missingCertificate ∧ t.calls = s.calls) ∧
    ∀ certificate, c.mode = .ok .imported → c.spec.certificate = some certificate →
      ∃ privateKey made, c.spec.privateKey = some privateKey ∧
        t.calls = s.calls ++ made.map Prod.fst ∧
        c.Imports world certificate privateKey s.moment made result t.moment := by
  rcases hrun : Session.run world (importHook config c) s with ⟨result, t⟩
  refine ⟨?_, ?_, ?_, ?_⟩
  · intro reason hmode
    unfold importHook at hrun
    rw [hmode] at hrun
    cases hrun
    exact ⟨rfl, rfl⟩
  · intro mode hmode hother
    unfold importHook at hrun
    rw [hmode] at hrun
    cases mode with
    | imported => exact absurd rfl hother
    | requested =>
      cases hrun
      exact ⟨rfl, rfl⟩
    | unspecified =>
      cases hrun
      exact ⟨rfl, rfl⟩
  · intro hmode hcertificate
    obtain ⟨u, hu, halike⟩ := Session.run_of_ends world (importHook_ends hmode hcertificate) s
    cases hrun.symm.trans hu
    exact ⟨rfl, halike.calls⟩
  · intro certificate hmode hcertificate
    obtain ⟨privateKey, hkey⟩ := privateKey_of_imported hmode
    obtain ⟨made, hcalls, hcourse⟩ := importHook_takes hmode hcertificate hkey hrun
    exact ⟨privateKey, made, hkey, hcalls, hcourse.imports⟩

end Certificate

end CertSync
