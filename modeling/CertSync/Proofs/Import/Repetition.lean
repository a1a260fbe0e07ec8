import CertSync.Hook.World
import CertSync.Proofs.Import.Run

/-!
# Imports that are run again

The driver hands an import the resource that the run before it returned. That resource carries the
identifier of the certificate that was made for it, but an import does not look at it.
-/

namespace CertSync

variable {σ : Type}

/-- What a run meets. -/
structure Round (σ : Type) where
  world : Collaborators σ
  state : σ
  cancelled : Bool := false

def Round.start (r : Round σ) : Session σ := { world := r.state, cancelled := r.cancelled }

namespace Certificate

variable {config : Config} {c : Certificate}

/-- The resource that the driver has after a run, which is the old one unless the run returned
another. -/
def afterImport (c : Certificate) : Except HookError (Option ImportOutcome) → Certificate
  | .ok (some outcome) => outcome.resource
  | _ => c

/-- The calls of runs that follow one another. -/
def importCalls (config : Config) : Certificate → List (Round σ) → List Call
  | _, [] => []
  | c, r :: rest =>
    let ran := Session.run r.world (importHook config c) r.start
    ran.2.calls ++ importCalls config (c.afterImport ran.1) rest

def readyFor (c : Certificate) (r : Round σ) : Bool := c.ready r.world r.start

theorem afterImport_cases (config : Config) (h : c.mode = .ok .imported) (r : Round σ) :
    c.afterImport (Session.run r.world (importHook config c) r.start).1 = c ∨
      ∃ arn, c.afterImport (Session.run r.world (importHook config c) r.start).1 =
        c.imported arn := by
  rcases hrun : Session.run r.world (importHook config c) r.start with ⟨e | _ | outcome, t⟩
  · exact .inl rfl
  · exact .inl rfl
  · obtain ⟨-, arn, houtcome⟩ := importHook_ok h hrun
    cases houtcome
    exact .inr ⟨arn, rfl⟩

theorem countP_calls_round (config : Config) (h : c.mode = .ok .imported) (r : Round σ) :
    (Session.run r.world (importHook config c) r.start).2.calls.countP Call.imports =
      if c.readyFor r then 1 else 0 :=
  (importHook_countP h r.start).trans (Nat.zero_add _)

theorem countP_importCalls (h : c.mode = .ok .imported) (rounds : List (Round σ)) :
    (importCalls config c rounds).countP Call.imports = rounds.countP c.readyFor := by
  induction rounds generalizing c with
  | nil => rfl
  | cons r rest ih =>
    -- An import leaves alone what decides about the next one.
    have hnext : (importCalls config (c.afterImport
        (Session.run r.world (importHook config c) r.start).1) rest).countP Call.imports =
        rest.countP c.readyFor := by
      rcases afterImport_cases config h r with hafter | ⟨arn, hafter⟩ <;> rw [hafter]
      · exact ih h
      · exact ih (c := c.imported arn) h
    rw [importCalls, List.countP_append, hnext, countP_calls_round config h, List.countP_cons,
      Nat.add_comm]

/-- Each run makes a certificate of its own if it gets hold of the material, though the resource
already has one. So after a run that succeeded there are no more just if no run gets that far. -/
theorem importHook_repeats (hmode : c.mode = .ok .imported) {first : Round σ}
    {outcome : ImportOutcome} {t : Session σ}
    (hok : Session.run first.world (importHook config c) first.start = (.ok (some outcome), t))
    (rounds : List (Round σ)) :
    (∃ arn, outcome.resource = c.imported arn) ∧ t.calls.countP Call.imports = 1 ∧
      (importCalls config outcome.resource rounds).countP Call.imports =
        rounds.countP c.readyFor ∧
      ((∀ call ∈ importCalls config outcome.resource rounds, call.imports = false) ↔
        ∀ r ∈ rounds, c.readyFor r = false) := by
  obtain ⟨hready, arn, houtcome⟩ := importHook_ok hmode hok
  cases houtcome
  have hfirst := countP_calls_round config hmode first
  have hagain : (importCalls config (c.imported arn) rounds).countP Call.imports =
      rounds.countP c.readyFor := countP_importCalls (c := c.imported arn) hmode rounds
  rw [hok, readyFor, hready] at hfirst
  refine ⟨⟨arn, rfl⟩, hfirst, hagain, ?_⟩
  have hzero : (importCalls config (c.imported arn) rounds).countP Call.imports = 0 ↔
      rounds.countP c.readyFor = 0 := by rw [hagain]
  simpa only [List.countP_eq_zero, Bool.not_eq_true] using hzero

/-- A world where both entries are there. -/
def importWorld : World where
  secrets := ((∅ : SecretTable).insert ⟨"default", "imported", "tls.crt"⟩ "CERT").insert
    ⟨"default", "imported", "tls.key"⟩ "KEY"
  importArn := "arn:web"

def importRound (cancelled : Bool) : Round World where
  world := World.collaborators fun _ => {}
  state := importWorld
  cancelled

theorem importing_succeeds :
    ∃ t, Session.run (importRound false).world (importHook {} importing) (importRound false).start =
      (.ok (some ⟨importing.imported "arn:web", true⟩), t) :=
  ⟨_, Session.ok_of_toOption (by decide +kernel)⟩

/-- Of two more runs after its import the one that is not cancelled makes another certificate. -/
theorem importing_repeats :
    let again := importCalls {} (importing.imported "arn:web") [importRound true, importRound false]
    again.countP Call.imports = 1 ∧
      ∀ call ∈ importCalls {} (importing.imported "arn:web") [importRound true],
        call.imports = false := by
  intro again
  obtain ⟨t, hok⟩ := importing_succeeds
  obtain ⟨-, -, hcount, -⟩ := importHook_repeats rfl hok [importRound true, importRound false]
  obtain ⟨-, -, -, hnone⟩ := importHook_repeats rfl hok [importRound true]
  refine ⟨hcount.trans (by decide +kernel), hnone.mpr ?_⟩
  decide +kernel

/-- A resource that an import returned, with the identifier of its certificate, is imported
again. -/
theorem importing_imported_again :
    ¬∀ (config : Config) (c : Certificate) (first : Round World) (outcome : ImportOutcome)
      (t : Session World) (rounds : List (Round World)),
      c.mode = .ok .imported →
      Session.run first.world (importHook config c) first.start = (.ok (some outcome), t) →
      outcome.resource.arn?.isSome = true →
      ∀ call ∈ importCalls config outcome.resource rounds, call.imports = false := by
  intro hall
  obtain ⟨t, hok⟩ := importing_succeeds
  have hnone := hall {} importing (importRound false) _ t [importRound false] rfl hok rfl
  have hsome : (importCalls {} (importing.imported "arn:web") [importRound false]).any
      Call.imports = true := by decide +kernel
  obtain ⟨call, hcall, himports⟩ := List.any_eq_true.mp hsome
  exact Bool.false_ne_true ((hnone call hcall).symm.trans himports)

end Certificate

end CertSync
