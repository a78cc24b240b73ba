/-
# Tokens that are configured

A list of tokens with the identities that they stand for. Of entries with the same token the last
counts; the empty token is never accepted.
-/

import TokenAuthority.Authentication.Basic

namespace TokenAuthority

/-- A configured token. -/
structure StaticToken where
  token : String
  user : String
  uid : String := ""
  groups : List String := []
deriving DecidableEq, Repr

namespace StaticToken

/-- Whom the token stands for. -/
def identity (t : StaticToken) : Identity :=
  { name := t.user, uid := t.uid, groups := t.groups }

/-- The entry that counts for a token. -/
def lookup? (tokens : List StaticToken) (token : String) : Option StaticToken :=
  if token = "" then none else tokens.reverse.find? (·.token = token)

end StaticToken

/-- Accepts configured tokens. -/
def TokenAuthenticator.static {m : Type → Type} [Monad m] (tokens : List StaticToken) :
    TokenAuthenticator m := fun token _ =>
  return .ok ((StaticToken.lookup? tokens token).map fun t => { user := t.identity })

end TokenAuthority
