/-
# Identities

Whom a bearer token stands for, and the audiences that a token may be meant for.
-/

import TokenAuthority.KeyedMap

namespace TokenAuthority

/-- Who makes a request. -/
structure Identity where
  name : String := ""
  uid : String := ""
  groups : List String := []
  /-- What else is known, such as the scopes of a token. -/
  extra : KeyedMap (List String) := .empty
deriving DecidableEq, Repr, Inhabited

namespace Identity

/-- An identity of which only the name is known. -/
def named (name : String) : Identity :=
  { name }

end Identity

/-- Audiences, in order. -/
abbrev Audiences := List String

namespace Audiences

/-- The audiences that two lists share, in the order of the first. -/
def shared (own other : Audiences) : Audiences :=
  own.filter fun audience => other.contains audience

end Audiences
end TokenAuthority
