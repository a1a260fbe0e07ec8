import CertSync.Proofs.SecretStore.Write
import Mathlib.Logic.Function.Basic

/-!
# Writes side by side

Any number of writes run at once while other clients create secrets. The server takes up the
requests one by one, in any order in which they may reach it: each write waits for the answer to one
request before it sends the next. A write that finds a secret missing may so find it there after all
once it tries to create it; it then fails, and has changed nothing.
-/

namespace CertSync

variable {ι : Type}

/-! ## What a write comes to -/

namespace SecretWrite

variable {w : SecretWrite} {own : List (Exchange ι)} {call : StoreCall} {e : Exchange ι}

/-- How far a write has got: `own` are its exchanges, and `call` is what is left of it. -/
inductive Stage (w : SecretWrite) : List (Exchange ι) → StoreCall → Prop
  | start : Stage w [] w.call
  | looked {look : Exchange ι} (hlook : look.sent = w.toHttp w.look) :
      Stage w [look] (w.afterLook look.told)
  | changed {look change : Exchange ι} {request : SecretRequest} {refused : SecretStoreError}
      (hlook : look.sent = w.toHttp w.look) (hwarrants : w.Warrants look.told request)
      (hchange : change.sent = w.toHttp request) :
      Stage w [look, change] (.done (change.told.settle refused))

/-- The request was sent when the write had looked and done nothing else, and it is the change that
goes with what the look was told. -/
def FollowsLook (w : SecretWrite) (own : List (Exchange ι)) (sent : HttpRequest) : Prop :=
  ∃ look request, own = [look] ∧ look.sent = w.toHttp w.look ∧ w.Warrants look.told request ∧
    sent = w.toHttp request

/-- The exchanges of a write, and what is left of it, account for each other. -/
structure Accounted (w : SecretWrite) (own : List (Exchange ι)) (call : StoreCall) : Prop where
  succeeded : call = .done (.ok ()) → own.countP Exchange.applied = 1
  /-- With an answer lost, an error leaves it open what was done. -/
  failed : ∀ error, call = .done (.error error) → (∀ e ∈ own, e.fate ≠ .lost) →
    own.countP Exchange.applied = 0
  applied : ∀ e ∈ own, e.applied = true → w.SetsEntry e.before e.after
  notApplied : ∀ e ∈ own, e.applied = false → e.after = e.before
  /-- A change comes after the look that called for it. -/
  sent : ∀ pre e post, own = pre ++ e :: post → e.sent.method ≠ .get → w.FollowsLook pre e.sent
  /-- So does a change that has been sent and has not reached the server. -/
  underway : ∀ request next, call = .ask request next → (w.toHttp request).method ≠ .get →
    w.FollowsLook own (w.toHttp request)

namespace Stage

theorem ask_cases {request : SecretRequest} {next : SecretReply → StoreCall}
    (h : Stage w own (.ask request next)) :
    own = [] ∧ request = w.look ∧ next = w.afterLook ∨
      ∃ look refused, own = [look] ∧ look.sent = w.toHttp w.look ∧
        w.Warrants look.told request ∧ next = fun told => .done (told.settle refused) := by
  generalize hcall : (Program.ask request next : StoreCall) = call at h
  cases h with
  | start =>
    rw [call_eq] at hcall
    split at hcall
    · cases hcall
    · cases hcall
      exact .inl ⟨rfl, rfl, rfl⟩
  | @looked look hlook =>
    rcases w.afterLook_cases look.told with ⟨_, hdone⟩ | ⟨_, _, hwarrants, hask⟩
    · rw [hdone] at hcall
      cases hcall
    · rw [hask] at hcall
      cases hcall
      exact .inr ⟨_, _, rfl, hlook, hwarrants, rfl⟩
  | changed => cases hcall

theorem done_cases {result : Except SecretStoreError Unit} (h : Stage w own (.done result)) :
    (∃ error, result = .error error) ∧ own.countP Exchange.applied = 0 ∨
      ∃ look change refused, own = [look, change] ∧ look.applied = false ∧
        change.sent.method ≠ .get ∧ result = change.told.settle refused := by
  generalize hcall : (Program.done result : StoreCall) = call at h
  cases h with
  | start =>
    rw [call_eq] at hcall
    split at hcall
    · cases hcall
      exact .inl ⟨⟨_, rfl⟩, rfl⟩
    · cases hcall
  | @looked look hlook =>
    rcases w.afterLook_cases look.told with ⟨_, hdone⟩ | ⟨_, _, _, hask⟩
    · rw [hdone] at hcall
      cases hcall
      exact .inl ⟨⟨_, rfl⟩, by simp [look_not_applied hlook]⟩
    · rw [hask] at hcall
      cases hcall
  | changed hlook hwarrants hchange =>
    cases hcall
    exact .inr ⟨_, _, _, rfl, look_not_applied hlook, hchange ▸ hwarrants.ne_get, rfl⟩

theorem exchange {request : SecretRequest} {next : SecretReply → StoreCall}
    (h : Stage w own (.ask request next)) (hsent : e.sent = w.toHttp request) :
    Stage w (own ++ [e]) (next e.told) := by
  rcases h.ask_cases with ⟨rfl, rfl, rfl⟩ | ⟨look, refused, rfl, hlook, hwarrants, rfl⟩
  · exact .looked hsent
  · exact .changed hlook hwarrants hsent

theorem countP_of_ok (h : Stage w own (.done (.ok ()))) : own.countP Exchange.applied = 1 := by
  rcases h.done_cases with ⟨⟨_, herror⟩, -⟩ | ⟨look, change, refused, rfl, hlook, hchange, hok⟩
  · cases herror
  · have htold : change.told.isOk = true := by
      rw [← SecretReply.isOk_settle refused, ← hok]
      rfl
    simp [hlook, Exchange.applied_of_told hchange htold]

theorem countP_of_error {error : SecretStoreError} (h : Stage w own (.done (.error error)))
    (hheard : ∀ e ∈ own, e.fate ≠ .lost) : own.countP Exchange.applied = 0 := by
  rcases h.done_cases with ⟨-, hnone⟩ | ⟨look, change, refused, rfl, hlook, hchange, herror⟩
  · exact hnone
  · have htold : change.told.isOk = false := by
      rw [← SecretReply.isOk_settle refused, ← herror]
      rfl
    simp [hlook, Exchange.not_applied_of_told hchange (hheard change (by simp)) htold]

theorem setsEntry (h : Stage w own call) (he : e ∈ own) (happlied : e.applied = true) :
    w.SetsEntry e.before e.after := by
  cases h with
  | start => cases he
  | looked hlook =>
    rw [List.mem_singleton] at he
    simp [he, look_not_applied hlook] at happlied
  | changed hlook hwarrants hchange =>
    simp only [List.mem_cons, List.not_mem_nil, or_false] at he
    rcases he with rfl | rfl
    · simp [look_not_applied hlook] at happlied
    · exact hwarrants.setsEntry hchange happlied

theorem followsLook_of_sent {pre post : List (Exchange ι)} (h : Stage w (pre ++ e :: post) call)
    (hchange : e.sent.method ≠ .get) : w.FollowsLook pre e.sent := by
  generalize hown : pre ++ e :: post = own at h
  cases h with
  | start => simp at hown
  | looked hlook =>
    rcases pre with _ | ⟨_, pre⟩
    · obtain ⟨rfl, -⟩ := List.cons.inj hown
      exact absurd (look_method hlook) hchange
    · simp at hown
  | changed hlook hwarrants hsent =>
    rcases pre with _ | ⟨_, _ | ⟨_, pre⟩⟩
    · obtain ⟨rfl, -⟩ := List.cons.inj hown
      exact absurd (look_method hlook) hchange
    · obtain ⟨rfl, htail⟩ := List.cons.inj hown
      obtain ⟨rfl, -⟩ := List.cons.inj htail
      exact ⟨_, _, rfl, hlook, hwarrants, hsent⟩
    · simp at hown

theorem followsLook_of_underway {request : SecretRequest} {next : SecretReply → StoreCall}
    (h : Stage w own (.ask request next)) (hchange : (w.toHttp request).method ≠ .get) :
    w.FollowsLook own (w.toHttp request) := by
  rcases h.ask_cases with ⟨-, rfl, -⟩ | ⟨look, refused, rfl, hlook, hwarrants, -⟩
  · exact absurd rfl hchange
  · exact ⟨look, request, rfl, hlook, hwarrants, rfl⟩

theorem accounted (h : Stage w own call) : w.Accounted own call where
  succeeded hok := (hok ▸ h).countP_of_ok
  failed _ herror := (herror ▸ h).countP_of_error
  applied _ he := h.setsEntry he
  notApplied _ _ := Exchange.after_of_not_applied
  sent _ _ _ hown := (hown ▸ h).followsLook_of_sent
  underway _ _ hcall := (hcall ▸ h).followsLook_of_underway

end Stage

end SecretWrite

/-! ## Exchanges in a row -/

/-- The exchanges of one write. -/
def sentBy [DecidableEq ι] (i : ι) (log : List (Exchange ι)) : List (Exchange ι) :=
  log.filter fun e => e.sender = some i

theorem sentBy_snoc [DecidableEq ι] (i : ι) (log : List (Exchange ι)) (e : Exchange ι) :
    sentBy i (log ++ [e]) = if e.sender = some i then sentBy i log ++ [e] else sentBy i log := by
  unfold sentBy
  split <;> simp [*]

/-- The exchanges lead from one state of the server to another. -/
inductive Linked : SecretServer → List (Exchange ι) → SecretServer → Prop
  | nil (server : SecretServer) : Linked server [] server
  | snoc {server : SecretServer} {log : List (Exchange ι)} {e : Exchange ι}
      (h : Linked server log e.before) : Linked server (log ++ [e]) e.after

/-- What an exchange puts into an entry: a write its own value, and another client whatever the
secret holds that it creates. -/
def Exchange.written? (writes : ι → SecretWrite) (path key : String) (e : Exchange ι) :
    Option Bytes :=
  if e.applied then
    match e.sender with
    | some i =>
      if (writes i).path = path ∧ (writes i).key = key then some (writes i).bytes else none
    | none => SecretServer.createdValue? e.sent path key
  else none

/-- If each exchange leaves in an entry what it puts there, or else what was there, the last that
puts anything there decides. -/
theorem Linked.held?_eq {start final : SecretServer} {log : List (Exchange ι)}
    {path key : String} {written : Exchange ι → Option Bytes} (h : Linked start log final)
    (hwritten : ∀ e ∈ log, e.after.held? path key = (written e).or (e.before.held? path key)) :
    final.held? path key = (log.filterMap written).getLast?.or (start.held? path key) := by
  induction h with
  | nil => simp
  | @snoc log e h ih =>
    have hbefore := ih fun e he => hwritten e (List.mem_append_left _ he)
    rw [hwritten e (by simp), hbefore]
    cases hlast : written e <;> simp [hlast]

/-! ## What reaches the server -/

inductive Arrival (ι : Type) where
  /-- The request that a write waits to be answered. -/
  | request (i : ι) (fate : Fate)
  /-- A secret that another client wants to be created. -/
  | creation (path : String) (body : HttpBody)

/-- The server, what is left of each write, and the exchanges so far. -/
structure Traffic (ι : Type) where
  server : SecretServer
  calls : ι → StoreCall
  log : List (Exchange ι) := []

namespace Traffic

variable [DecidableEq ι] {writes : ι → SecretWrite} {server : SecretServer} {t : Traffic ι}

def start (writes : ι → SecretWrite) (server : SecretServer) : Traffic ι where
  server := server
  calls i := (writes i).call

/-- The server deals with the request that a write waits to be answered, and the write goes on. It
does so at once, since nobody else can tell when an answer comes. -/
def serveWrite (writes : ι → SecretWrite) (t : Traffic ι) (i : ι) (fate : Fate) : Traffic ι :=
  match t.calls i with
  | .done _ => t
  | .ask request next =>
    let e : Exchange ι := ⟨some i, (writes i).toHttp request, fate, t.server⟩
    { server := e.after, calls := Function.update t.calls i (next e.told), log := t.log ++ [e] }

def serveCreation (t : Traffic ι) (path : String) (body : HttpBody) : Traffic ι :=
  let e : Exchange ι := ⟨none, { method := .post, path, body := some body }, .answered, t.server⟩
  { t with server := e.after, log := t.log ++ [e] }

def step (writes : ι → SecretWrite) (t : Traffic ι) : Arrival ι → Traffic ι
  | .request i fate => t.serveWrite writes i fate
  | .creation path body => t.serveCreation path body

def run (writes : ι → SecretWrite) (server : SecretServer) (arrivals : List (Arrival ι)) :
    Traffic ι :=
  arrivals.foldl (step writes) (start writes server)

/-! ## The invariant -/

structure Sound (writes : ι → SecretWrite) (server : SecretServer) (t : Traffic ι) : Prop where
  linked : Linked server t.log t.server
  stage : ∀ i, (writes i).Stage (sentBy i t.log) (t.calls i)
  others : ∀ e ∈ t.log, e.sender = none → e.sent.method = .post

theorem start_sound (writes : ι → SecretWrite) (server : SecretServer) :
    Sound writes server (start writes server) where
  linked := .nil server
  stage _ := .start
  others _ he := nomatch he

theorem serveWrite_sound (h : Sound writes server t) (i : ι) (fate : Fate) :
    Sound writes server (t.serveWrite writes i fate) := by
  unfold serveWrite
  split
  · exact h
  · next request next hcall =>
    refine ⟨.snoc h.linked, fun j => ?_, ?_⟩
    · have hj := h.stage j
      dsimp only
      rw [sentBy_snoc]
      by_cases hij : i = j
      · subst hij
        rw [hcall] at hj
        rw [if_pos rfl, Function.update_self]
        exact hj.exchange rfl
      · rw [if_neg (by simpa using hij), Function.update_of_ne (Ne.symm hij)]
        exact hj
    · simpa [or_imp, forall_and] using h.others

theorem serveCreation_sound (h : Sound writes server t) (path : String) (body : HttpBody) :
    Sound writes server (t.serveCreation path body) where
  linked := .snoc h.linked
  stage i := by simpa [serveCreation, sentBy_snoc] using h.stage i
  others := by simpa [serveCreation, or_imp, forall_and] using h.others

theorem step_sound (h : Sound writes server t) (a : Arrival ι) :
    Sound writes server (step writes t a) := by
  cases a with
  | request i fate => exact serveWrite_sound h i fate
  | creation path body => exact serveCreation_sound h path body

theorem foldl_sound (h : Sound writes server t) (arrivals : List (Arrival ι)) :
    Sound writes server (arrivals.foldl (step writes) t) := by
  induction arrivals generalizing t with
  | nil => exact h
  | cons a rest ih => exact ih (step_sound h a)

theorem run_sound (writes : ι → SecretWrite) (server : SecretServer)
    (arrivals : List (Arrival ι)) : Sound writes server (run writes server arrivals) :=
  foldl_sound (start_sound writes server) arrivals

/-! ## The last write -/

theorem Sound.held?_after {e : Exchange ι} (h : Sound writes server t) (he : e ∈ t.log)
    (path key : String) :
    e.after.held? path key = (e.written? writes path key).or (e.before.held? path key) := by
  unfold Exchange.written?
  cases happlied : e.applied with
  | false => simp [Exchange.after_of_not_applied happlied]
  | true =>
    cases hsender : e.sender with
    | none =>
      obtain ⟨hok, hafter⟩ := Exchange.served_of_applied happlied
      rw [hafter]
      exact SecretServer.held?_serve_post (h.others e he hsender) hok path key
    | some i =>
      have hown : e ∈ sentBy i t.log := by simp [sentBy, he, hsender]
      rw [((h.stage i).setsEntry hown happlied).held?_eq]
      simp only [if_true]
      split <;> rfl

/-- However many writes there are, and in whatever order their requests and those of other clients
reach the server, each write accounts for its changes, and every entry holds in the end what was
last put there. -/
theorem run_accounted (writes : ι → SecretWrite) (server : SecretServer)
    (arrivals : List (Arrival ι)) :
    (∀ i, (writes i).Accounted (sentBy i (run writes server arrivals).log)
        ((run writes server arrivals).calls i)) ∧
      Linked server (run writes server arrivals).log (run writes server arrivals).server ∧
      ∀ path key, (run writes server arrivals).server.held? path key =
        ((run writes server arrivals).log.filterMap fun e =>
          e.written? writes path key).getLast?.or (server.held? path key) := by
  have h := run_sound writes server arrivals
  refine ⟨fun i => (h.stage i).accounted, h.linked, fun path key => ?_⟩
  exact h.linked.held?_eq fun e he => h.held?_after he path key

/-- Two writes of different entries of one secret, and the second of them over again. -/
def rivals (i : Fin 3) : SecretWrite where
  store := ⟨"certsync"⟩
  ns := "default"
  name := "tls"
  key := if i = 0 then "tls.crt" else "tls.key"
  value := if i = 0 then "CERT" else "KEY"

/-- Both find the secret missing, and the second comes too late to create it. -/
def overtaken : Traffic (Fin 3) :=
  run rivals ∅ [.request 0 .answered, .request 1 .answered, .request 0 .answered,
    .request 1 .answered, .request 2 .answered, .request 2 .answered]

example : overtaken.calls 0 = .done (.ok ()) ∧
    overtaken.calls 1 = .done (.error (.notCreated "default" "tls")) ∧
    overtaken.calls 2 = .done (.ok ()) ∧
    overtaken.server.held? (rivals 0).path "tls.crt" = some (Bytes.ofText "CERT") ∧
    overtaken.server.held? (rivals 0).path "tls.key" = some (Bytes.ofText "KEY") :=
  ⟨rfl, rfl, rfl, rfl, rfl⟩

end Traffic

end CertSync
