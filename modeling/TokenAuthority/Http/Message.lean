/-
# Requests and responses
-/

import TokenAuthority.Failure
import TokenAuthority.Http.Header

namespace TokenAuthority
namespace Http

/-- A request. -/
structure Request where
  method : String
  /-- The path of the target, as it was sent. -/
  path : String
  headers : List Header
  body : ByteArray

/-- What a response carries. -/
inductive Content where
  | json (value : Json.Value)
  | plain (text : String)
  | html (text : String)

namespace Content

/-- The media type of a content. -/
def mediaType : Content → String
  | json _ => "application/json"
  | plain _ => "text/plain; charset=utf-8"
  | html _ => "text/html; charset=utf-8"

/-- The text of a content. -/
def text : Content → String
  | json value => value.render
  | plain text => text
  | html text => text

end Content

/-- A response. -/
structure Response where
  status : Nat
  content : Option Content := none
  /-- The methods that the resource has, if the request's is not one of them. -/
  allow : List String := []
  /-- Whether the content is only announced. -/
  isBodiless : Bool := false

namespace Response

/-- A response that carries JSON. -/
def json (status : Nat) (value : Json.Value) : Response :=
  { status, content := some (.json value) }

/-- A response that carries a text. -/
def plain (status : Nat) (text : String) : Response :=
  { status, content := some (.plain text) }

/-- A response that tells a failure. -/
def ofFailure (f : Failure) : Response :=
  json f.reason.code f.toJson

/-- The text that is sent. -/
def body (r : Response) : String :=
  if r.isBodiless then "" else (r.content.map Content.text).getD ""

end Response
end Http
end TokenAuthority
