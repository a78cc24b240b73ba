/-
# Authorization

What is asked for, and by whom, is described by `Attributes`. An authorizer allows it, denies it,
or has no opinion.
-/

import TokenAuthority.Identity

namespace TokenAuthority

/-- What is asked for, and by whom. -/
structure Attributes where
  user : Option Identity := none
  verb : String := ""
  apiGroup : String := ""
  apiVersion : String := ""
  resource : String := ""
  subresource : String := ""
  name : String := ""
  namespaceName : String := ""
  path : String := ""
  /-- Whether the path names a resource. -/
  isResource : Bool := false
deriving DecidableEq, Repr

/-- The name of the user, empty if there is none. -/
def Attributes.userName (a : Attributes) : String :=
  (a.user.map (·.name)).getD ""

/-- What an authorizer may say. -/
inductive Decision where
  | allow
  | deny
  | noOpinion
deriving DecidableEq, Repr

/-- What an authorizer says, and why. -/
structure Authorization where
  decision : Decision
  reason : String := ""
deriving DecidableEq, Repr

/-- Why authorization fails. -/
inductive AuthorizationError where
  | failed (text : String)
  /-- Two or more errors, in order. -/
  | aggregate (errors : List AuthorizationError)
deriving Repr, Inhabited

namespace AuthorizationError

mutual

/-- The message of an error. -/
def message : AuthorizationError → String
  | failed text => text
  | aggregate errors => "[" ++ ", ".intercalate (messages errors) ++ "]"

/-- The messages of some errors. -/
def messages : List AuthorizationError → List String
  | [] => []
  | e :: rest => message e :: messages rest

end

/-- What becomes of the errors of several authorizers that made no decision. -/
def combine : List AuthorizationError → Option AuthorizationError
  | [] => none
  | [e] => some e
  | errors => some (aggregate errors)

end AuthorizationError

/-- Decides on requests. -/
abbrev Authorizer (m : Type → Type) :=
  Attributes → m (Except AuthorizationError Authorization)

namespace Authorizer

variable {m : Type → Type} [Monad m]

/-- Asks members in order until one decides; `reasons` and `errors` hold what the earlier ones
said. -/
def firstDecision (attributes : Attributes) : List (Authorizer m) → List String →
    List AuthorizationError → m (Except AuthorizationError Authorization)
  | [], reasons, errors =>
    match AuthorizationError.combine errors with
    | none => return .ok ⟨.noOpinion, "\n".intercalate reasons⟩
    | some e => return .error e
  | member :: rest, reasons, errors => do
    match ← member attributes with
    | .ok ⟨.noOpinion, reason⟩ =>
      firstDecision attributes rest (if reason = "" then reasons else reasons ++ [reason]) errors
    | .ok decided => return .ok decided
    | .error e => firstDecision attributes rest reasons (errors ++ [e])

/-- Says what the first member says that decides. Errors count only if no member does. -/
def union (members : List (Authorizer m)) : Authorizer m := fun attributes =>
  firstDecision attributes members [] []

end Authorizer
end TokenAuthority
