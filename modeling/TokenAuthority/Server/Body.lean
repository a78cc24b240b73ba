/-
# Reading a request's body

| what is wrong | status |
| --- | ---: |
| the media type is not JSON's | 415 |
| the body is longer than 2097152 bytes | 413 |
| the body is not JSON | 400 |
| it is not what is wanted | 422 |
-/

import TokenAuthority.Http.MediaType
import TokenAuthority.Http.Message
import TokenAuthority.Json.Record

namespace TokenAuthority
namespace Server

/-- What is wrong with a body. -/
inductive BodyError where
  | unsupportedType
  | tooLarge
  | malformed
  | unfit
deriving DecidableEq, Repr

namespace BodyError

/-- What a caller is told. -/
def response : BodyError → Http.Response
  | unsupportedType => .plain 415 "Expected request with \x60Content-Type: application/json\x60"
  | tooLarge => .plain 413 "Failed to buffer the request body"
  | malformed => .plain 400 "Failed to parse the request body as JSON"
  | unfit => .plain 422 "Failed to deserialize the JSON body into the target type"

end BodyError

/-- The longest body that is read, in bytes. -/
def bodyLimit : Nat := 2097152

/-- Whether the fields of a request say that its body is JSON. -/
def announcesJson (headers : List Http.Header) : Bool :=
  match (Http.Header.first? headers "content-type").bind (Http.printable? ·.value) with
  | some text => Http.MediaType.isJson text
  | none => false

/-- Reads the body of a request. -/
def readBody {α : Type} (r : Json.Record α) (request : Http.Request) : Except BodyError α :=
  if !announcesJson request.headers then .error .unsupportedType
  else if bodyLimit < request.body.size then .error .tooLarge
  else match Json.readText r.read (Text.Glyph.ofBytes request.body) with
    | .ok a => .ok a
    | .error .unfit => .error .unfit
    | .error _ => .error .malformed

end Server
end TokenAuthority
