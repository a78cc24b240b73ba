/-
# Authenticators made of others

| authenticator | accepts |
| --- | --- |
| `audienceAgnostic` | what its delegate accepts, if the server's audiences have one that is asked for |
| `union` | what the first of its members accepts that accepts at all |
| `bearer` | requests with a token that its delegate accepts |
-/

import TokenAuthority.Authentication.Basic

namespace TokenAuthority

namespace TokenAuthenticator

variable {m : Type → Type} [Monad m]

/-- Lets an authenticator that knows nothing of audiences accept tokens for those of the server. -/
def audienceAgnostic (own : Audiences) (delegate : TokenAuthenticator m) :
    TokenAuthenticator m := fun token audiences => do
  let asked := audiences.getD []
  if asked.isEmpty then delegate token none
  else if (own.shared asked).isEmpty then return .ok none
  else return (← delegate token none).map (·.map ({ · with audiences := own.shared asked }))

/-- Asks members in order until one accepts; `errors` holds what the earlier ones met. -/
def firstAccepted (token : String) (audiences : Option Audiences) :
    List (TokenAuthenticator m) → List AuthenticationError → m Verdict
  | [], errors =>
    match AuthenticationError.combine errors with
    | none => return .ok none
    | some e => return .error e
  | member :: rest, errors => do
    match ← member token audiences with
    | .ok (some accepted) => return .ok (some accepted)
    | .ok none => firstAccepted token audiences rest errors
    | .error e => firstAccepted token audiences rest (errors ++ [e])

/-- Accepts what a member accepts. Errors count only if no member accepts. -/
def union (members : List (TokenAuthenticator m)) : TokenAuthenticator m := fun token audiences =>
  firstAccepted token audiences members []

end TokenAuthenticator

namespace Bearer

/-- The name of the field that carries the token. -/
def fieldName : String := "authorization"

/-- The blanks that a field's value may hold. -/
def isBlank (c : Char) : Bool :=
  c = ' ' || c = '\t'

/-- The token that a field's value carries, stripped of blanks, if it is of the form
`Bearer <token>`. -/
def token? (value : List UInt8) : Option (List Char) := do
  let text := (← Http.printable? value).dropWhile isBlank
  let scheme := text.takeWhile (· ≠ ' ')
  match text.dropWhile (· ≠ ' ') with
  | [] => none
  | _ :: rest =>
    if scheme.map Char.toLower = ['b', 'e', 'a', 'r', 'e', 'r'] then
      some (Text.strip isBlank rest)
    else none

/-- The value that carries a token. -/
def value (token : String) : String :=
  "Bearer " ++ token

end Bearer

/-- Accepts requests whose first `Authorization` field carries an accepted bearer token. -/
def RequestAuthenticator.bearer {m : Type → Type} [Monad m] (delegate : TokenAuthenticator m) :
    RequestAuthenticator m := fun credentials =>
  match (Http.Header.first? credentials.headers Bearer.fieldName).bind (Bearer.token? ·.value) with
  | none => return .ok none
  | some [] => return .error .invalidBearerToken
  | some token => delegate (String.ofList token) credentials.audiences

end TokenAuthority
