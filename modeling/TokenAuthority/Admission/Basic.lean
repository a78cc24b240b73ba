/-
# Admission

Before a change is made, plugins may look at it, note annotations for the audit, and forbid it.

| rule | |
| --- | --- |
| interest | a plugin sees only changes by the operations that it names |
| order | plugins are asked in the order of the chain, up to the first that forbids |
| annotations | the first value of a key stays; another one is dropped with a warning |

What a plugin notes counts even if it forbids the change.
-/

import TokenAuthority.Backend
import TokenAuthority.Identity
import TokenAuthority.Resource.Object

namespace TokenAuthority
namespace Admission

/-- What is done to an object. -/
inductive Operation where
  | create
  | update
  | delete
  | connect
deriving DecidableEq, Repr

/-- A resource and its group. -/
structure GroupResource where
  group : String
  resource : String
deriving DecidableEq, Repr

/-- The resource, and behind a point its group if it has one. -/
def GroupResource.text (r : GroupResource) : String :=
  if r.group = "" then r.resource else r.resource ++ "." ++ r.group

/-- A change that someone asks for. -/
structure Change where
  resource : GroupResource
  operation : Operation
  /-- The name of the object. -/
  name : String
  namespaceName : String := ""
  user : Option Identity := none
  object : Option Resource.Object := none
  oldObject : Option Resource.Object := none
  annotations : KeyedMap String := .empty
deriving DecidableEq, Repr

/-- Why a change is not made, or why no chain can be built. -/
inductive Error where
  | forbidden (resource name reason : String)
  | unknownPlugin (name : String)
  | configuration (plugin reason : String)
deriving DecidableEq, Repr

namespace Error

/-- The message of an error. -/
def message : Error → String
  | forbidden resource name reason => resource ++ " \"" ++ name ++ "\" is forbidden: " ++ reason
  | unknownPlugin name => "admission plugin \"" ++ name ++ "\" is not registered"
  | configuration plugin reason =>
    "failed to configure admission plugin \"" ++ plugin ++ "\": " ++ reason

/-- What a caller is told. -/
def toFailure : Error → Failure
  | forbidden resource name reason => .forbidden (forbidden resource name reason).message
  | e => .internal e.message

end Error

namespace Change

/-- The error that forbids the change. -/
def forbid (c : Change) (reason : String) : Error :=
  .forbidden c.resource.text c.name reason

/-- The change with an annotation, unless its key has a value already. -/
def note (c : Change) (key value : String) : Change :=
  if (c.annotations.find? key).isSome then c
  else { c with annotations := c.annotations.insert key value }

/-- The warning about an annotation that is dropped. -/
def conflict? (c : Change) (key value : String) : Option String :=
  match c.annotations.find? key with
  | some existing =>
    if existing = value then none
    else some ("Ignoring conflicting admission annotation " ++ key ++ "=" ++ value ++
      ", already set to " ++ existing)
  | none => none

/-- The audit event of the change once it is made. -/
def auditEvent (c : Change) (verb : String) (code : Nat) : AuditEvent where
  verb := verb
  resource := c.resource.text
  name := c.name
  user := (c.user.map (·.name)).getD ""
  annotations := c.annotations
  code := code

variable {m : Type → Type} [Monad m] [Backend m]

/-- Adds annotations in order, with a warning for each that is dropped. -/
def annotate (c : Change) : List (String × String) → m Change
  | [] => return c
  | (key, value) :: rest => do
    if let some warning := c.conflict? key value then Backend.warn warning
    (c.note key value).annotate rest

end Change

/-- What a plugin makes of a change. -/
structure Opinion where
  /-- Annotations, in order. -/
  notes : List (String × String) := []
  /-- Why the change is not made. -/
  objection : Option Error := none

/-- A plugin. -/
structure Plugin (m : Type → Type) where
  name : String
  /-- The operations that it wants to see. -/
  operations : List Operation
  validate : Change → m Opinion

/-- Whether a plugin wants to see an operation. -/
def Plugin.handles {m : Type → Type} (p : Plugin m) (operation : Operation) : Bool :=
  p.operations.contains operation

/-- A plugin wants to see the operations that it names. -/
theorem Plugin.handles_iff {m : Type → Type} {p : Plugin m} {operation : Operation} :
    p.handles operation = true ↔ operation ∈ p.operations :=
  List.contains_iff_mem

variable {m : Type → Type} [Monad m] [Backend m]

/-- Asks plugins in order. Returns the change with its annotations, and the error if one of them
forbids it. -/
def validate : List (Plugin m) → Change → m (Change × Except Error Unit)
  | [], change => return (change, .ok ())
  | plugin :: rest, change => do
    if plugin.handles change.operation then
      let opinion ← plugin.validate change
      let change ← change.annotate opinion.notes
      match opinion.objection with
      | some e => return (change, .error e)
      | none => validate rest change
    else validate rest change

end Admission
end TokenAuthority
