/-!
# Programs of requests

A program is a tree: it ends with a value, or it makes a request and goes on with the answer.
Nothing is said about who answers, so the same program can be run against a world in memory, over
a network, or interleaved with another one.
-/

namespace CertSync

/-- A tree of requests, with one branch for each answer. -/
inductive Program (R : Type) (Answer : R → Type) (α : Type) : Type where
  | done (value : α)
  | ask (request : R) (next : Answer request → Program R Answer α)

namespace Program

variable {R : Type} {Answer : R → Type} {α β γ : Type}

/-- Go on with the value that the first program ends with. -/
def bind : Program R Answer α → (α → Program R Answer β) → Program R Answer β
  | done a, f => f a
  | ask r next, f => ask r fun answer => (next answer).bind f

instance : Monad (Program R Answer) where
  pure := done
  bind := bind

/-- Make one request and end with its answer. -/
def request (r : R) : Program R Answer (Answer r) := ask r done

/-- Let a monad answer the requests, in their order. -/
def run {m : Type → Type} [Monad m] (handle : (r : R) → m (Answer r)) : Program R Answer α → m α
  | done a => pure a
  | ask r next => handle r >>= fun answer => (next answer).run handle

theorem bind_done (p : Program R Answer α) : p.bind done = p := by
  induction p with
  | done a => rfl
  | ask r next ih => simp [bind, ih]

theorem bind_assoc (p : Program R Answer α) (f : α → Program R Answer β)
    (g : β → Program R Answer γ) : (p.bind f).bind g = p.bind fun a => (f a).bind g := by
  induction p with
  | done a => rfl
  | ask r next ih => simp [bind, ih]

instance : LawfulMonad (Program R Answer) :=
  LawfulMonad.mk' _ bind_done (fun _ _ => rfl) bind_assoc

end Program

end CertSync
