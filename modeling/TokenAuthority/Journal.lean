/-
# The journal

A server writes down what it does: messages of three levels, and one audit event for each change
that it makes on behalf of a caller.
-/

import TokenAuthority.Json.Value
import TokenAuthority.KeyedMap

namespace TokenAuthority

/-- A change that was made on behalf of a caller. -/
structure AuditEvent where
  verb : String
  /-- The resource and its group. -/
  resource : String
  /-- The name of the object. -/
  name : String
  /-- The name of the caller. -/
  user : String
  /-- What admission noted. -/
  annotations : KeyedMap String
  /-- The status code that the caller is answered. -/
  code : Nat
deriving DecidableEq, Repr

namespace AuditEvent

/-- An event in JSON; annotations are left out when there are none. -/
def toJson (e : AuditEvent) : Json.Value :=
  .object ([
    ("verb", .string e.verb),
    ("resource", .string e.resource),
    ("name", .string e.name),
    ("user", .string e.user)] ++
    (if e.annotations.isEmpty then []
      else [("annotations", .object (e.annotations.entries.map fun (k, v) => (k, .string v)))]) ++
    [("code", .integer e.code)])

end AuditEvent

/-- How much a message matters. -/
inductive Severity where
  | info
  | warning
  | error
deriving DecidableEq, Repr

/-- What is written down. -/
inductive Entry where
  | message (severity : Severity) (text : String)
  | audit (event : AuditEvent)
deriving DecidableEq, Repr

namespace Entry

/-- The audit event of an entry that is one. -/
def audit? : Entry → Option AuditEvent
  | audit e => some e
  | message _ _ => none

end Entry
end TokenAuthority
