/-
# Stored access tokens

The checks, in order; the first that fails decides:

| check | otherwise |
| --- | --- |
| the token is stored | nothing to say |
| it is not expired | `tokenExpired` |
| it is not timed out | `tokenTimedOut` |
| its user is stored | `userNotFound` |
| the user's identifier is the token's | `userUidMismatch` |

With an inactivity timeout a successful use is noted in the stored token, and fails if the token
is gone by then.
-/

import TokenAuthority.Authentication.Basic
import TokenAuthority.Authentication.TokenName

namespace TokenAuthority

open Resource (AccessToken User)

/-- The key under which the scopes of a token are told. -/
def scopesKey : String := "scopes.authorization.openshift.io"

namespace Resource

/-- The identifier of a user, empty if there is none. -/
def User.identifier (u : User) : String :=
  u.metadata.uid.getD ""

/-- Whom a token stands for when it is used. -/
def AccessToken.identity (t : AccessToken) (u : User) : Identity where
  name := u.metadata.name
  uid := u.identifier
  groups := u.groups
  extra := if t.scopes.isEmpty then .empty else .ofList [(scopesKey, t.scopes)]

end Resource

namespace TokenAuthenticator

variable {m : Type → Type} [Monad m] [Backend m]

/-- Notes that a token was used. -/
def noteUse (token : AccessToken) (timeout : UInt64) : m (Except AuthenticationError Unit) := do
  match ← Backend.replace .accessTokens (token.used (← Backend.now) timeout) with
  | .ok _ => return .ok ()
  | .error e => return .error (.store e)

/-- Checks a stored token against its user. -/
def checkUser (token : AccessToken) (inactivityTimeout : Option UInt64) : m Verdict := do
  match ← Backend.find .users token.userName with
  | none => return .error (.userNotFound token.userName)
  | some user =>
    if user.identifier ≠ token.userUid then
      Backend.warn ("Access token for " ++ token.userName ++ " carries a stale user UID")
      return .error (.userUidMismatch user.identifier token.userUid)
    let accepted : Accepted := { user := token.identity user }
    match inactivityTimeout with
    | none => return .ok (some accepted)
    | some timeout =>
      match ← noteUse token timeout with
      | .error e => return .error e
      | .ok () => return .ok (some accepted)

/-- Accepts stored access tokens. -/
def accessTokens (inactivityTimeout : Option UInt64) : TokenAuthenticator m := fun token _ => do
  match ← Backend.find .accessTokens (TokenName.ofToken token) with
  | none => return .ok none
  | some stored =>
    let now ← Backend.now
    if ← Backend.orAbandon (stored.isExpired? now) then return .error .tokenExpired
    if ← Backend.orAbandon (stored.isTimedOut? now) then return .error .tokenTimedOut
    checkUser stored inactivityTimeout

end TokenAuthenticator
end TokenAuthority
