import CertSync.Proofs.Export.Delivery
import CertSync.Proofs.Session.Trace

/-!
# Runs over a shared store

Runs may share a store of entries while everything else that they meet is their own: what the
certificate service answers them, and which of their calls fail, hang or are cancelled. A call reads
or writes one entry at a time, and nothing else of the store has a part in it.
-/

namespace CertSync

variable {ρ α : Type}

/-! ## Entries and writes -/

namespace Call

/-- The one entry that a call has to do with. -/
def entry? : Call → Option EntryId
  | .secret (.resolve ns ref) => some (ref.entry ns)
  | .secret (.write ns name key _) => some ⟨ns, name, key⟩
  | .service _ => none

def written? : Call → Option EntryId
  | .secret (.write ns name key _) => some ⟨ns, name, key⟩
  | _ => none

theorem entry?_of_written? {c : Call} {entry : EntryId} (h : c.written? = some entry) :
    c.entry? = some entry := by
  cases c with
  | service c => cases h
  | secret c =>
    cases c with
    | resolve ns ref => cases h
    | write ns name key value => exact h

end Call

/-- Some of the calls have to do with the entry. -/
def Touched (calls : List Call) (entry : EntryId) : Prop := ∃ c ∈ calls, c.entry? = some entry

def Written (calls : List Call) (entry : EntryId) : Prop := ∃ c ∈ calls, c.written? = some entry

theorem Touched.mono {calls more : List Call} {entry : EntryId} (h : Touched calls entry)
    (hmore : calls ⊆ more) : Touched more entry :=
  h.imp fun _ hc => ⟨hmore hc.1, hc.2⟩

theorem Written.mono {calls more : List Call} {entry : EntryId} (h : Written calls entry)
    (hmore : calls ⊆ more) : Written more entry :=
  h.imp fun _ hc => ⟨hmore hc.1, hc.2⟩

theorem Written.touched {calls : List Call} {entry : EntryId} (h : Written calls entry) :
    Touched calls entry := by
  obtain ⟨c, hc, hwritten⟩ := h
  exact ⟨c, hc, Call.entry?_of_written? hwritten⟩

abbrev Writes := List (EntryId × String)

namespace SecretTable

/-- The table once the writes were made, in this order. -/
def after (table : SecretTable) (writes : Writes) : SecretTable :=
  writes.foldl (fun table write => table.insert write.1 write.2) table

variable {table other : SecretTable} {writes : Writes} {entry : EntryId}

theorem after_append (table : SecretTable) (first second : Writes) :
    after table (first ++ second) = after (after table first) second :=
  List.foldl_append

theorem getElem?_after_congr (writes : Writes) (h : other[entry]? = table[entry]?) :
    (after other writes)[entry]? = (after table writes)[entry]? := by
  induction writes generalizing table other with
  | nil => exact h
  | cons write rest ih =>
    apply ih
    rw [getElem?_insert, getElem?_insert, h]

theorem getElem?_after_of_ne (h : ∀ write ∈ writes, write.1 ≠ entry) :
    (after table writes)[entry]? = table[entry]? := by
  induction writes generalizing table with
  | nil => rfl
  | cons write rest ih =>
    refine (ih fun w hw => h w (List.mem_cons_of_mem _ hw)).trans ?_
    rw [getElem?_insert, if_neg (h write List.mem_cons_self)]

theorem after_comm {first second : Writes}
    (h : ∀ write ∈ first, ∀ write' ∈ second, write.1 ≠ write'.1) (table : SecretTable) :
    after (after table first) second = after (after table second) first := by
  apply ext
  intro entry
  by_cases hfirst : ∃ write ∈ first, write.1 = entry
  · obtain ⟨write, hwrite, rfl⟩ := hfirst
    have hsecond (start : SecretTable) : (after start second)[write.1]? = start[write.1]? :=
      getElem?_after_of_ne fun write' hwrite' => (h write hwrite write' hwrite').symm
    rw [hsecond]
    exact (getElem?_after_congr first (hsecond table)).symm
  · have hkept (start : SecretTable) : (after start first)[entry]? = start[entry]? :=
      getElem?_after_of_ne fun write hwrite heq => hfirst ⟨write, hwrite, heq⟩
    rw [hkept]
    exact getElem?_after_congr second (hkept table)

/-- How the store ends a call that gets through to it. An entry that is not there has its own
account. -/
def answer (table : SecretTable) (missing : ErrorChain) : (c : SecretCall) → Ending c.Answer
  | .resolve ns ref =>
    match table[ref.entry ns]? with
    | some value => .returns value
    | none => .fails missing
  | .write _ _ _ _ => .returns ()

end SecretTable

def SecretCall.writes : SecretCall → Writes
  | resolve _ _ => []
  | write ns name key value => [(⟨ns, name, key⟩, value)]

/-! ## What a run meets -/

/-- How a call to the store goes. One that fails or hangs may have had its effect before. -/
inductive Access where
  | granted (missing : ErrorChain) (cancels : Bool)
  | fails (error : ErrorChain) (cancels effective : Bool)
  | hangs (effective : Bool)

namespace Access

def reaction (access : Access) (table : SecretTable) (c : SecretCall) : Reaction c.Answer :=
  match access with
  | granted missing cancels => ⟨table.answer missing c, cancels⟩
  | fails error cancels _ => ⟨.fails error, cancels⟩
  | hangs _ => ⟨.hangs, true⟩

theorem reaction_congr {table other : SecretTable} {c : SecretCall}
    (h : ∀ missing, other.answer missing c = table.answer missing c) (access : Access) :
    access.reaction other c = access.reaction table c := by
  cases access with
  | granted missing cancels => simp only [reaction, h]
  | fails error cancels effective => rfl
  | hangs effective => rfl

def effective : Access → Bool
  | granted _ _ => true
  | fails _ _ effective => effective
  | hangs effective => effective

def writes (access : Access) (c : SecretCall) : Writes := if access.effective then c.writes else []

end Access

/-- What a run meets of its own, besides the store. -/
structure Surroundings (ρ : Type) where
  access : SecretCall → ρ → Access × ρ
  service : (c : ServiceCall) → ρ → Reaction c.Answer × ρ

namespace Surroundings

variable {env : Surroundings ρ}

/-- The collaborators of a run are its own surroundings and the store. -/
def collaborators (env : Surroundings ρ) : Collaborators (SecretTable × ρ)
  | .secret c, (table, own) =>
    let (access, own) := env.access c own
    (access.reaction table c, table.after (access.writes c), own)
  | .service c, (table, own) =>
    let (reaction, own) := env.service c own
    (reaction, table, own)

def writes (env : Surroundings ρ) (own : ρ) : Call → Writes
  | .secret c => (env.access c own).1.writes c
  | .service _ => []

theorem written_of_mem_writes {own : ρ} {c : Call} {write : EntryId × String}
    (h : write ∈ env.writes own c) : c.written? = some write.1 := by
  cases c with
  | service c => cases h
  | secret c =>
    simp only [writes, Access.writes] at h
    split at h
    · cases c with
      | resolve ns ref => cases h
      | write ns name key value =>
        cases List.mem_singleton.mp h
        rfl
    · cases h

/-- A call sees no more of the store than its entry, and does the same to any store that holds the
same there. -/
theorem collaborators_local {c : Call} {table other : SecretTable} (own : ρ)
    (h : ∀ entry, c.entry? = some entry → other[entry]? = table[entry]?) :
    env.collaborators c (other, own) =
      ((env.collaborators c (table, own)).1, other.after (env.writes own c),
        (env.collaborators c (table, own)).2.2) := by
  cases c with
  | service c => rfl
  | secret c =>
    have hanswer (missing : ErrorChain) : other.answer missing c = table.answer missing c := by
      cases c with
      | resolve ns ref => simp only [SecretTable.answer, h _ rfl]
      | write ns name key value => rfl
    exact Prod.ext (Access.reaction_congr hanswer _) rfl

end Surroundings

/-! ## Sessions beside the store -/

namespace Session

variable {env : Surroundings ρ}

def beside (s : Session ρ) (table : SecretTable) : Session (SecretTable × ρ) :=
  { s with world := (table, s.world) }

/-- The session without the store. -/
def own (s : Session (SecretTable × ρ)) : Session ρ := { s with world := s.world.2 }

@[simp] theorem beside_world (s : Session ρ) (table : SecretTable) :
    (s.beside table).world = (table, s.world) := rfl

/-- What an effect writes to the store. -/
def writes (env : Surroundings ρ) (s : Session ρ) : Effect → Writes
  | .call c => if s.cancelled then [] else env.writes s.world c
  | _ => []

/-- The entry that an effect has to do with. A call that is not started has none. -/
def entry? (s : Session ρ) : Effect → Option EntryId
  | .call c => if s.cancelled then none else c.entry?
  | _ => none

theorem handle_beside (env : Surroundings ρ) (r : Effect) (s : Session ρ)
    (table other : SecretTable)
    (h : ∀ entry, s.entry? r = some entry → other[entry]? = table[entry]?) :
    handle env.collaborators r (s.beside other) =
      ((handle env.collaborators r (s.beside table)).1,
        (handle env.collaborators r (s.beside table)).2.own.beside
          (other.after (s.writes env r))) := by
  cases r with
  | record entry => rfl
  | log event => rfl
  | wait seconds => rfl
  | call c =>
    change call env.collaborators c (s.beside other) =
      ((call env.collaborators c (s.beside table)).1,
        (call env.collaborators c (s.beside table)).2.own.beside
          (other.after (s.writes env (.call c))))
    cases hs : s.cancelled with
    | true =>
      have hwrites : s.writes env (.call c) = [] := if_pos hs
      rw [call_of_cancelled (s := s.beside other) hs, call_of_cancelled (s := s.beside table) hs,
        hwrites]
      rfl
    | false =>
      have hentry : s.entry? (.call c) = c.entry? := if_neg (by simp [hs])
      have hwrites : s.writes env (.call c) = env.writes s.world c := if_neg (by simp [hs])
      have hlocal := env.collaborators_local s.world fun entry he => h entry (hentry.trans he)
      rw [call_of_not_cancelled (s := s.beside other) hs,
        call_of_not_cancelled (s := s.beside table) hs, hwrites]
      simp only [started, beside_world, hlocal]
      cases (env.collaborators c (table, s.world)).1.ending <;> rfl

theorem touched_of_entry? {r : Effect} {s : Session ρ} {entry : EntryId}
    (h : s.entry? r = some entry) (table : SecretTable) :
    Touched (handle env.collaborators r (s.beside table)).2.calls entry := by
  cases r with
  | call c =>
    cases hs : s.cancelled with
    | true => cases (if_pos hs).symm.trans h
    | false =>
      have hcalls : (call env.collaborators c (s.beside table)).2.calls = s.calls ++ [c] :=
        call_calls hs
      refine ⟨c, ?_, (if_neg (by simp [hs])).symm.trans h⟩
      exact hcalls ▸ List.mem_append_right _ List.mem_cons_self
  | record entry => cases h
  | log event => cases h
  | wait seconds => cases h

theorem written_of_mem_writes {r : Effect} {s : Session ρ} {write : EntryId × String}
    (h : write ∈ s.writes env r) (table : SecretTable) :
    Written (handle env.collaborators r (s.beside table)).2.calls write.1 := by
  cases r with
  | call c =>
    cases hs : s.cancelled with
    | true => rw [writes, if_pos hs] at h; cases h
    | false =>
      rw [writes, if_neg (by simp [hs])] at h
      have hcalls : (call env.collaborators c (s.beside table)).2.calls = s.calls ++ [c] :=
        call_calls hs
      refine ⟨c, ?_, env.written_of_mem_writes h⟩
      exact hcalls ▸ List.mem_append_right _ List.mem_cons_self
  | record entry => cases h
  | log event => cases h
  | wait seconds => cases h

end Session

end CertSync
