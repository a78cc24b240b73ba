/-
# Authentication

An authenticator either accepts a token, has nothing to say about it, or fails. What it accepts
stands for an identity, and is good for some audiences.
-/

import TokenAuthority.Backend
import TokenAuthority.Http.Header
import TokenAuthority.Identity

namespace TokenAuthority

/-- Why authentication fails. -/
inductive AuthenticationError where
  /-- A header without a usable token. -/
  | invalidBearerToken
  | tokenExpired
  | tokenTimedOut
  | userNotFound (name : String)
  /-- The user is not the one to whom the token was issued. -/
  | userUidMismatch (userUid tokenUid : String)
  /-- No answer came in time. -/
  | timeout
  | store (error : StoreError)
  | webhook (text : String)
  /-- Two or more errors, in order. -/
  | aggregate (errors : List AuthenticationError)
deriving Repr, Inhabited

namespace AuthenticationError

mutual

/-- The message of an error. -/
def message : AuthenticationError → String
  | invalidBearerToken => "invalid bearer token"
  | tokenExpired => "token expired"
  | tokenTimedOut => "token timed out"
  | userNotFound name => "user \"" ++ name ++ "\" not found"
  | userUidMismatch userUid tokenUid =>
    "user.UID (" ++ userUid ++ ") does not match token.userUID (" ++ tokenUid ++ ")"
  | timeout => "authentication timed out"
  | store error => error.message
  | webhook text => "webhook: " ++ text
  | aggregate errors => "[" ++ ", ".intercalate (messages errors) ++ "]"

/-- The messages of some errors. -/
def messages : List AuthenticationError → List String
  | [] => []
  | e :: rest => message e :: messages rest

end

/-- What becomes of the errors that several authenticators met, none of which accepted. -/
def combine : List AuthenticationError → Option AuthenticationError
  | [] => none
  | [e] => some e
  | errors => some (aggregate errors)

end AuthenticationError

/-- An accepted token. -/
structure Accepted where
  user : Identity
  audiences : Audiences := []
deriving DecidableEq, Repr

/-- What an authenticator says; `none` if it has nothing to say. -/
abbrev Verdict := Except AuthenticationError (Option Accepted)

/-- Authenticates a token for some audiences, if any are asked for. -/
abbrev TokenAuthenticator (m : Type → Type) := String → Option Audiences → m Verdict

/-- What a request brings along to be authenticated. -/
structure Credentials where
  headers : List Http.Header
  audiences : Option Audiences := none

/-- Authenticates a request. -/
abbrev RequestAuthenticator (m : Type → Type) := Credentials → m Verdict

end TokenAuthority
