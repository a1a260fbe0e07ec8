import CertSync.Json.Basic

/-!
# HTTP exchanges

A request as it is put together, and the part of a response that its reader looks at.
-/

namespace CertSync

inductive HttpMethod where
  | get
  | post
  | patch
deriving DecidableEq

def HttpMethod.name : HttpMethod → String
  | get => "GET"
  | post => "POST"
  | patch => "PATCH"

/-- A body that is a JSON document, with the type it is sent as. -/
structure HttpBody where
  contentType : String
  contents : Json

/-- A request without the headers that every request has. -/
structure HttpRequest where
  method : HttpMethod
  path : String
  query : List (String × String) := []
  body : Option HttpBody := none

/-- The status and the text of a response. Its headers are not looked at. -/
structure HttpResponse where
  status : Nat
  body : String
deriving DecidableEq

end CertSync
