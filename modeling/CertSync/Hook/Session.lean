import CertSync.Hook.Basic

/-!
# Running a hook

A session carries the state of the collaborators and whether the run was cancelled, and notes what
the run does. Cancellation is looked at when a call is about to start and while one hangs; a call
that completes has completed, even if the run was cancelled meanwhile.
-/

namespace CertSync

/-- How a call ends at the collaborator. -/
inductive Ending (α : Type) where
  | returns (value : α)
  | fails (error : ErrorChain)
  /-- The call never ends by itself, so only cancelling the run ends it. -/
  | hangs

/-- What a collaborator does with a call: its ending, and whether the run is cancelled meanwhile. -/
structure Reaction (α : Type) where
  ending : Ending α
  /-- The run is cancelled while the call is under way. -/
  cancels : Bool := false

/-- The world that a run meets: how it reacts to each call, in each of its states. -/
abbrev Collaborators (σ : Type) := (c : Call) → σ → Reaction c.Answer × σ

/-- A run so far: the world, the cancellation, and in order the calls that were started, the
attempts that were recorded and the events that were logged. -/
structure Session (σ : Type) where
  world : σ
  cancelled : Bool := false
  calls : List Call := []
  records : List ApiRecord := []
  log : List LogEvent := []
  waited : Nat := 0

namespace Session

variable {σ α : Type}

/-- Start a call unless the run is cancelled. -/
def call (world : Collaborators σ) (c : Call) (s : Session σ) : Outcome c.Answer × Session σ :=
  if s.cancelled then (.stopped, s)
  else
    let (reaction, after) := world c s.world
    let s := { s with world := after, cancelled := reaction.cancels, calls := s.calls ++ [c] }
    match reaction.ending with
    | .returns a => (.completed a, s)
    | .fails error => (.failed error, s)
    | .hangs => (.stopped, { s with cancelled := true })

/-- What each effect does to a session. Only a call reaches the world. -/
def handle (world : Collaborators σ) : (e : Effect) → StateM (Session σ) e.Answer
  | .call c => call world c
  | .record entry => modify fun s => { s with records := s.records ++ [entry] }
  | .log event => modify fun s => { s with log := s.log ++ [event] }
  | .wait seconds => modify fun s => { s with waited := s.waited + seconds }

/-- Run a hook against the collaborators, from the session as it stands. -/
def run (world : Collaborators σ) (hook : Hook α) (s : Session σ) :
    Except HookError α × Session σ :=
  Program.run (handle world) hook s

end Session

end CertSync
