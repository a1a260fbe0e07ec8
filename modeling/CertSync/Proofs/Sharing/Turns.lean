import CertSync.Proofs.Sharing.Surroundings

/-!
# Two runs that take turns

Two runs over one store take turns in any order, an effect at a time. If neither writes an entry
that the other has to do with, each of them goes as it would alone, and the store ends up as if one
had run after the other.
-/

namespace CertSync

variable {ρ ρ₁ ρ₂ α α₁ α₂ : Type}

/-- No entry that is written by the one is read or written by the other. -/
structure Apart (first second : List Call) : Prop where
  left {entry : EntryId} (h : Written first entry) : ¬Touched second entry
  right {entry : EntryId} (h : Written second entry) : ¬Touched first entry

theorem Apart.ne_of_written {first second : List Call} (h : Apart first second) {w₁ w₂ : Writes}
    (h₁ : ∀ write ∈ w₁, Written first write.1) (h₂ : ∀ write ∈ w₂, Written second write.1) :
    ∀ write ∈ w₁, ∀ write' ∈ w₂, write.1 ≠ write'.1 := by
  intro write hwrite write' hwrite' heq
  exact h.left (h₁ write hwrite) (heq ▸ (h₂ write' hwrite').touched)

/-! ## One run -/

/-- A run that is under way: what is left of the hook, and its session. -/
structure Party (ρ α : Type) where
  program : Hook α
  session : Session ρ

namespace Party

def run (env : Surroundings ρ) (p : Party ρ α) (table : SecretTable) :
    Except HookError α × Session (SecretTable × ρ) :=
  Session.run env.collaborators p.program (p.session.beside table)

/-- One effect of the run. -/
def turn (env : Surroundings ρ) (table : SecretTable) : Party ρ α → SecretTable × Party ρ α
  | ⟨.done result, s⟩ => (table, ⟨Program.done result, s⟩)
  | ⟨.ask r next, s⟩ =>
    let handled := Session.handle env.collaborators r (s.beside table)
    (handled.2.world.1, ⟨next handled.1, handled.2.own⟩)

/-- From any store that holds the same in the entries that it touches, the run ends with this
result and in this session, and has made these writes. -/
structure Settles (env : Surroundings ρ) (p : Party ρ α) (table : SecretTable)
    (result : Except HookError α) (t : Session ρ) (writes : Writes) : Prop where
  written : ∀ write ∈ writes, Written t.calls write.1
  run (other : SecretTable) (h : ∀ entry, Touched t.calls entry → other[entry]? = table[entry]?) :
    p.run env other = (result, t.beside (other.after writes))

variable {env : Surroundings ρ} {p : Party ρ α} {table : SecretTable} {result : Except HookError α}
  {t : Session ρ} {writes made : Writes}

theorem Settles.done (env : Surroundings ρ) (h : p.program = Program.done result)
    (table : SecretTable) : Settles env p table result p.session [] where
  written := nofun
  run other _ := by
    rw [Party.run, h]
    rfl

theorem Settles.calls_prefix (h : Settles env p table result t writes) :
    p.session.calls <+: t.calls := by
  have hcalls := Session.calls_prefix env.collaborators p.program (p.session.beside table)
  have hrun := h.run table fun _ _ => rfl
  rw [Party.run] at hrun
  rwa [hrun] at hcalls

theorem turn_ask (env : Surroundings ρ) (table : SecretTable) (r : Effect)
    (next : r.Answer → Hook α) (s : Session ρ) :
    turn env table ⟨Program.ask r next, s⟩ =
      (table.after (s.writes env r),
        ⟨next (Session.handle env.collaborators r (s.beside table)).1,
          (Session.handle env.collaborators r (s.beside table)).2.own⟩) :=
  have hlocal := Session.handle_beside env r s table table fun _ _ => rfl
  Prod.ext (congrArg (fun handled => handled.2.world.1) hlocal) rfl

theorem Settles.of_turn
    (h : Settles env (p.turn env table).2 (p.turn env table).1 result t writes) :
    ∃ made, (p.turn env table).1 = table.after made ∧ (∀ write ∈ made, Written t.calls write.1) ∧
      Settles env p table result t (made ++ writes) := by
  obtain ⟨program, s⟩ := p
  cases program with
  | done ended => exact ⟨[], rfl, nofun, h⟩
  | ask r next =>
    rw [turn_ask] at h ⊢
    have hprefix := h.calls_prefix
    have hwritten : ∀ write ∈ s.writes env r, Written t.calls write.1 := fun write hwrite =>
      (Session.written_of_mem_writes hwrite table).mono hprefix.subset
    refine ⟨s.writes env r, rfl, hwritten, ?_, ?_⟩
    · intro write hwrite
      exact (List.mem_append.mp hwrite).elim (hwritten write) (h.written write)
    · intro other hother
      have hlocal := Session.handle_beside env r s table other fun entry he =>
        hother entry ((Session.touched_of_entry? he table).mono hprefix.subset)
      rw [Party.run, Session.run_ask, hlocal, SecretTable.after_append]
      exact h.run _ fun entry he => SecretTable.getElem?_after_congr _ (hother entry he)

theorem Settles.congr (h : Settles env p table result t writes) {other : SecretTable}
    (hother : ∀ entry, Touched t.calls entry → other[entry]? = table[entry]?) :
    Settles env p other result t writes where
  written := h.written
  run more hmore := h.run more fun entry hentry => (hmore entry hentry).trans (hother entry hentry)

theorem Settles.unique {result' : Except HookError α} {t' : Session ρ} {writes' : Writes}
    (h : Settles env p table result t writes) (h' : Settles env p table result' t' writes') :
    t = t' ∧ result = result' := by
  have hsame := (h.run table fun _ _ => rfl).symm.trans (h'.run table fun _ _ => rfl)
  exact ⟨congrArg (fun ran => ran.2.own) hsame, congrArg Prod.fst hsame⟩

theorem exists_settles (env : Surroundings ρ) (program : Hook α) (s : Session ρ)
    (table : SecretTable) :
    ∃ result t writes, Settles env ⟨program, s⟩ table result t writes := by
  induction program using Program.rec generalizing s table with
  | done result => exact ⟨result, s, [], .done env rfl table⟩
  | ask r next ih =>
    let handled := Session.handle env.collaborators r (s.beside table)
    obtain ⟨result, t, writes, h⟩ := ih handled.1 handled.2.own handled.2.world.1
    obtain ⟨made, -, -, hbefore⟩ := Settles.of_turn (p := ⟨Program.ask r next, s⟩) h
    exact ⟨result, t, made ++ writes, hbefore⟩

theorem Settles.turn (h : Settles env p table result t writes) :
    ∃ made rest, (p.turn env table).1 = table.after made ∧
      (∀ write ∈ made, Written t.calls write.1) ∧
      Settles env (p.turn env table).2 (p.turn env table).1 result t rest := by
  obtain ⟨result', t', rest, hrest⟩ := exists_settles env (p.turn env table).2.program
    (p.turn env table).2.session (p.turn env table).1
  obtain ⟨made, htable, hmade, hbefore⟩ := Settles.of_turn hrest
  obtain ⟨rfl, rfl⟩ := h.unique hbefore
  exact ⟨made, rest, htable, hmade, hrest⟩

end Party

/-! ## Two runs -/

inductive Side where
  | left
  | right

structure Joint (ρ₁ ρ₂ α₁ α₂ : Type) where
  table : SecretTable
  left : Party ρ₁ α₁
  right : Party ρ₂ α₂

namespace Joint

variable {env₁ : Surroundings ρ₁} {env₂ : Surroundings ρ₂} {j final : Joint ρ₁ ρ₂ α₁ α₂}
  {r₁ : Except HookError α₁} {r₂ : Except HookError α₂} {w₁ w₂ : Writes}

def turn (env₁ : Surroundings ρ₁) (env₂ : Surroundings ρ₂) (j : Joint ρ₁ ρ₂ α₁ α₂) :
    Side → Joint ρ₁ ρ₂ α₁ α₂
  | .left =>
    let (table, left) := j.left.turn env₁ j.table
    { j with table, left }
  | .right =>
    let (table, right) := j.right.turn env₂ j.table
    { j with table, right }

/-- The runs take turns in the order of the schedule. -/
def run (env₁ : Surroundings ρ₁) (env₂ : Surroundings ρ₂) (schedule : List Side)
    (j : Joint ρ₁ ρ₂ α₁ α₂) : Joint ρ₁ ρ₂ α₁ α₂ :=
  schedule.foldl (turn env₁ env₂) j

/-- Both runs have come to their end. -/
structure Ended (j : Joint ρ₁ ρ₂ α₁ α₂) (r₁ : Except HookError α₁) (r₂ : Except HookError α₂) :
    Prop where
  left : j.left.program = Program.done r₁
  right : j.right.program = Program.done r₂

/-- Either run goes on to its end as it would alone, and the store gets the writes of both. -/
structure Settles (env₁ : Surroundings ρ₁) (env₂ : Surroundings ρ₂) (j final : Joint ρ₁ ρ₂ α₁ α₂)
    (r₁ : Except HookError α₁) (r₂ : Except HookError α₂) (w₁ w₂ : Writes) : Prop where
  left : j.left.Settles env₁ j.table r₁ final.left.session w₁
  right : j.right.Settles env₂ j.table r₂ final.right.session w₂
  table : final.table = (j.table.after w₁).after w₂

theorem getElem?_after_of_untouched {calls : List Call} {made : Writes} (table : SecretTable)
    (h : ∀ write ∈ made, ¬Touched calls write.1) (entry : EntryId) (hentry : Touched calls entry) :
    (table.after made)[entry]? = table[entry]? := by
  apply SecretTable.getElem?_after_of_ne
  rintro write hwrite rfl
  exact h write hwrite hentry

theorem Settles.of_turn (hapart : Apart final.left.session.calls final.right.session.calls)
    {side : Side} (h : Settles env₁ env₂ (j.turn env₁ env₂ side) final r₁ r₂ w₁ w₂) :
    ∃ w₁ w₂, Settles env₁ env₂ j final r₁ r₂ w₁ w₂ := by
  cases side with
  | left =>
    obtain ⟨made, htable, hmade, hleft⟩ := Party.Settles.of_turn h.left
    have hkept := getElem?_after_of_untouched j.table fun write hwrite =>
      hapart.left (hmade write hwrite)
    have hright := h.right
    have hfinal := h.table
    simp only [turn] at hright hfinal
    rw [htable] at hright hfinal
    refine ⟨made ++ w₁, w₂, hleft, hright.congr fun entry he => (hkept entry he).symm, ?_⟩
    rw [hfinal, SecretTable.after_append]
  | right =>
    obtain ⟨made, htable, hmade, hright⟩ := Party.Settles.of_turn h.right
    have hkept := getElem?_after_of_untouched j.table fun write hwrite =>
      hapart.right (hmade write hwrite)
    have hleft := h.left
    have hfinal := h.table
    simp only [turn] at hleft hfinal
    rw [htable] at hleft hfinal
    refine ⟨w₁, made ++ w₂, hleft.congr fun entry he => (hkept entry he).symm, hright, ?_⟩
    rw [hfinal, SecretTable.after_append,
      SecretTable.after_comm (hapart.ne_of_written hleft.written hmade)]

/-- However the turns fall, both runs go as they would alone. -/
theorem settles_of_run (hended : final.Ended r₁ r₂)
    (hapart : Apart final.left.session.calls final.right.session.calls) (schedule : List Side)
    (hrun : j.run env₁ env₂ schedule = final) :
    ∃ w₁ w₂, Settles env₁ env₂ j final r₁ r₂ w₁ w₂ := by
  induction schedule generalizing j with
  | nil =>
    cases hrun
    exact ⟨[], [], .done env₁ hended.left _, .done env₂ hended.right _, rfl⟩
  | cons side rest ih =>
    obtain ⟨w₁, w₂, h⟩ := ih hrun
    exact h.of_turn hapart

theorem sessions_of_alone (hended : final.Ended r₁ r₂) {r₁' : Except HookError α₁}
    {r₂' : Except HookError α₂} {t₁ : Session ρ₁} {t₂ : Session ρ₂}
    (hleft : j.left.Settles env₁ j.table r₁' t₁ w₁)
    (hright : j.right.Settles env₂ j.table r₂' t₂ w₂)
    (hapart : Apart t₁.calls t₂.calls) (schedule : List Side)
    (hrun : j.run env₁ env₂ schedule = final) :
    final.left.session = t₁ ∧ final.right.session = t₂ := by
  induction schedule generalizing j w₁ w₂ with
  | nil =>
    cases hrun
    exact ⟨((Party.Settles.done env₁ hended.left _).unique hleft).1,
      ((Party.Settles.done env₂ hended.right _).unique hright).1⟩
  | cons side rest ih =>
    cases side with
    | left =>
      obtain ⟨made, w₁, htable, hmade, hleft⟩ := hleft.turn
      refine ih (j := j.turn env₁ env₂ .left) hleft (hright.congr ?_) hrun
      simp only [turn, htable]
      exact getElem?_after_of_untouched _ fun write hwrite => hapart.left (hmade write hwrite)
    | right =>
      obtain ⟨made, w₂, htable, hmade, hright⟩ := hright.turn
      refine ih (j := j.turn env₁ env₂ .right) (hleft.congr ?_) hright hrun
      simp only [turn, htable]
      exact getElem?_after_of_untouched _ fun write hwrite => hapart.right (hmade write hwrite)

theorem Settles.sequential (h : Settles env₁ env₂ j final r₁ r₂ w₁ w₂)
    (hapart : Apart final.left.session.calls final.right.session.calls) :
    ∃ t₁ t₂ : SecretTable,
      j.left.run env₁ j.table = (r₁, final.left.session.beside t₁) ∧
      j.right.run env₂ j.table = (r₂, final.right.session.beside t₂) ∧
      j.right.run env₂ t₁ = (r₂, final.right.session.beside final.table) ∧
      j.left.run env₁ t₂ = (r₁, final.left.session.beside final.table) := by
  refine ⟨j.table.after w₁, j.table.after w₂, h.left.run _ fun _ _ => rfl,
    h.right.run _ fun _ _ => rfl, ?_, ?_⟩
  · rw [h.table]
    exact h.right.run _ (getElem?_after_of_untouched _ fun write hwrite =>
      hapart.left (h.left.written write hwrite))
  · rw [h.table, SecretTable.after_comm (hapart.ne_of_written h.left.written h.right.written)]
    exact h.left.run _ (getElem?_after_of_untouched _ fun write hwrite =>
      hapart.right (h.right.written write hwrite))

/-- However the turns fall, both runs go as they would alone, and the store is left as either order
of the two would leave it. -/
theorem isolated {schedule : List Side} (hrun : j.run env₁ env₂ schedule = final)
    (hended : final.Ended r₁ r₂)
    (hapart : Apart final.left.session.calls final.right.session.calls ∨
      Apart (j.left.run env₁ j.table).2.calls (j.right.run env₂ j.table).2.calls) :
    ∃ t₁ t₂ : SecretTable,
      j.left.run env₁ j.table = (r₁, final.left.session.beside t₁) ∧
      j.right.run env₂ j.table = (r₂, final.right.session.beside t₂) ∧
      j.right.run env₂ t₁ = (r₂, final.right.session.beside final.table) ∧
      j.left.run env₁ t₂ = (r₁, final.left.session.beside final.table) := by
  have hfinal : Apart final.left.session.calls final.right.session.calls := by
    rcases hapart with hapart | hapart
    · exact hapart
    · obtain ⟨_, t₁, w₁, hleft⟩ :=
        Party.exists_settles env₁ j.left.program j.left.session j.table
      obtain ⟨_, t₂, w₂, hright⟩ :=
        Party.exists_settles env₂ j.right.program j.right.session j.table
      have hleft' : j.left.run env₁ j.table = _ := hleft.run j.table fun _ _ => rfl
      have hright' : j.right.run env₂ j.table = _ := hright.run j.table fun _ _ => rfl
      rw [hleft', hright'] at hapart
      obtain ⟨hl, hr⟩ := sessions_of_alone hended hleft hright hapart schedule hrun
      rwa [hl, hr]
  obtain ⟨w₁, w₂, h⟩ := settles_of_run hended hfinal schedule hrun
  exact h.sequential hfinal

/-! ## Schedules that go to the end -/

theorem run_append (first rest : List Side) (j : Joint ρ₁ ρ₂ α₁ α₂) :
    j.run env₁ env₂ (first ++ rest) = (j.run env₁ env₂ first).run env₁ env₂ rest :=
  List.foldl_append

theorem exists_left_done (env₁ : Surroundings ρ₁) (env₂ : Surroundings ρ₂) (table : SecretTable)
    (program : Hook α₁) (s : Session ρ₁) (right : Party ρ₂ α₂) :
    ∃ (schedule : List Side) (after : SecretTable) (r : Except HookError α₁) (t : Session ρ₁),
      Joint.run env₁ env₂ schedule ⟨table, ⟨program, s⟩, right⟩ =
        ⟨after, ⟨Program.done r, t⟩, right⟩ := by
  induction program using Program.rec generalizing table s with
  | done r => exact ⟨[], table, r, s, rfl⟩
  | ask r next ih =>
    let handled := Session.handle env₁.collaborators r (s.beside table)
    obtain ⟨schedule, after, result, t, h⟩ := ih handled.1 handled.2.world.1 handled.2.own
    exact ⟨.left :: schedule, after, result, t, h⟩

theorem exists_right_done (env₁ : Surroundings ρ₁) (env₂ : Surroundings ρ₂) (table : SecretTable)
    (left : Party ρ₁ α₁) (program : Hook α₂) (s : Session ρ₂) :
    ∃ (schedule : List Side) (after : SecretTable) (r : Except HookError α₂) (t : Session ρ₂),
      Joint.run env₁ env₂ schedule ⟨table, left, ⟨program, s⟩⟩ =
        ⟨after, left, ⟨Program.done r, t⟩⟩ := by
  induction program using Program.rec generalizing table s with
  | done r => exact ⟨[], table, r, s, rfl⟩
  | ask r next ih =>
    let handled := Session.handle env₂.collaborators r (s.beside table)
    obtain ⟨schedule, after, result, t, h⟩ := ih handled.1 handled.2.world.1 handled.2.own
    exact ⟨.right :: schedule, after, result, t, h⟩

theorem exists_ended (env₁ : Surroundings ρ₁) (env₂ : Surroundings ρ₂) (first : List Side)
    (j : Joint ρ₁ ρ₂ α₁ α₂) :
    ∃ rest r₁ r₂, (j.run env₁ env₂ (first ++ rest)).Ended r₁ r₂ := by
  rcases hj : j.run env₁ env₂ first with ⟨table, ⟨left, s₁⟩, right⟩
  obtain ⟨lefts, table₁, r₁, t₁, hleft⟩ := exists_left_done env₁ env₂ table left s₁ right
  obtain ⟨rights, table₂, r₂, t₂, hright⟩ :=
    exists_right_done env₁ env₂ table₁ ⟨Program.done r₁, t₁⟩ right.program right.session
  refine ⟨lefts ++ rights, r₁, r₂, ?_⟩
  rw [run_append, run_append, hj, hleft]
  exact hright ▸ ⟨rfl, rfl⟩

end Joint

end CertSync
