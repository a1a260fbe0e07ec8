import CertSync.Acm.Request
import CertSync.Acm.Response
import CertSync.Hook.Session

/-!
# The certificate service over the wire

A call is one exchange: its request is sent, and the response is read as the answer of the call or
as an error of it. The secrets are kept elsewhere.
-/

namespace CertSync

/-- What a defect is reported as. Only a call that failed has causes below it. -/
def AcmDefect.chain (c : ServiceCall) (causes : List String) : AcmDefect → ErrorChain
  | failed => ⟨message c .failed, causes⟩
  | lacks part => ⟨message c (.lacks part), []⟩

/-- The other end of the wire, and how a client accounts for a response that is an error. -/
structure AcmServer (σ : Type) where
  respond : AcmRequest → σ → HttpResponse × σ
  causes : HttpResponse → List String

/-- Whoever keeps the secrets. -/
abbrev SecretKeeper (σ : Type) := (c : SecretCall) → σ → Reaction c.Answer × σ

namespace AcmServer

variable {σ : Type}

def ending (server : AcmServer σ) (c : ServiceCall) (r : HttpResponse) : Ending c.Answer :=
  match c.ofResponse r with
  | .ok a => .returns a
  | .error defect => .fails (defect.chain c (server.causes r))

/-- The service behind a server, next to a keeper of the secrets. -/
def collaborators (server : AcmServer σ) (keeper : SecretKeeper σ) : Collaborators σ
  | .secret c, w => keeper c w
  | .service c, w =>
    let (r, after) := server.respond c.toAcm w
    (⟨server.ending c r, false⟩, after)

end AcmServer

end CertSync
