/-
# Failures that a caller is told of

| reason | code |
| --- | ---: |
| `BadRequest` | 400 |
| `Unauthorized` | 401 |
| `Forbidden` | 403 |
| `NotFound` | 404 |
| `AlreadyExists` | 409 |
| `InternalError` | 500 |

In JSON a failure is an object of kind `Status`.
-/

import TokenAuthority.Json.Value

namespace TokenAuthority

/-- Why a request fails. -/
inductive Reason where
  | badRequest
  | unauthorized
  | forbidden
  | notFound
  | alreadyExists
  | internalError
deriving DecidableEq, Repr

namespace Reason

/-- The word for a reason. -/
def word : Reason → String
  | badRequest => "BadRequest"
  | unauthorized => "Unauthorized"
  | forbidden => "Forbidden"
  | notFound => "NotFound"
  | alreadyExists => "AlreadyExists"
  | internalError => "InternalError"

/-- The status code of a reason. -/
def code : Reason → Nat
  | badRequest => 400
  | unauthorized => 401
  | forbidden => 403
  | notFound => 404
  | alreadyExists => 409
  | internalError => 500

end Reason

/-- A failure that a caller is told of. -/
structure Failure where
  reason : Reason
  message : String
deriving DecidableEq, Repr

namespace Failure

/-- A failure of the server's own. All of them begin alike, so that a caller cannot tell which
part failed. -/
def internal (detail : String) : Failure :=
  ⟨.internalError, "Internal error occurred: " ++ detail⟩

/-- A request that makes no sense. -/
def badRequest (message : String) : Failure := ⟨.badRequest, message⟩

/-- A caller that is not known. -/
def unauthorized (message : String) : Failure := ⟨.unauthorized, message⟩

/-- A caller that may not do this. -/
def forbidden (message : String) : Failure := ⟨.forbidden, message⟩

/-- An object that does not exist. -/
def notFound (resource name : String) : Failure :=
  ⟨.notFound, resource ++ " \"" ++ name ++ "\" not found"⟩

/-- An object whose name is taken. -/
def alreadyExists (resource name : String) : Failure :=
  ⟨.alreadyExists, resource ++ " \"" ++ name ++ "\" already exists"⟩

/-- A failure in one line. -/
def describe (f : Failure) : String :=
  f.message ++ " (" ++ f.reason.word ++ ")"

/-- A failure in JSON. -/
def toJson (f : Failure) : Json.Value :=
  .object [
    ("apiVersion", .string "v1"),
    ("code", .integer f.reason.code),
    ("kind", .string "Status"),
    ("message", .string f.message),
    ("metadata", .object []),
    ("reason", .string f.reason.word),
    ("status", .string "Failure")]

end Failure
end TokenAuthority
