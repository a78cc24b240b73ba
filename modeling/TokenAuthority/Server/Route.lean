/-
# Routes

| path | methods |
| --- | --- |
| `/healthz`, `/readyz`, `/openapi.json`, `/scalar` | `GET` |
| `/apis/oauth.openshift.io/v1/tokenreviews` | `POST` |
| `/apis/oauth.openshift.io/v1/namespaces/<namespace>/tokenreviews` | `POST` |
| `/apis/oauth.openshift.io/v1/oauthaccesstokens` | `POST` |
| `/apis/oauth.openshift.io/v1/oauthaccesstokens/<name>` | `GET`, `DELETE` |
| `/apis/user.openshift.io/v1/users` | `POST` |
| `/apis/user.openshift.io/v1/users/<name>` | `GET` |

`HEAD` is served where `GET` is. Segments are compared as they are sent; a name stays encoded here,
and is never empty.
-/

import TokenAuthority.Authorization.Resolve
import TokenAuthority.Resource.Metadata

namespace TokenAuthority
namespace Server

/-- What a path leads to. -/
inductive Route where
  | health
  | readiness
  | description
  | reference
  | tokenReviews
  | namespacedTokenReviews (ns : String)
  | accessTokens
  | accessToken (name : String)
  | users
  | user (name : String)
deriving DecidableEq, Repr

/-- What a request wants done. -/
inductive Endpoint where
  | checkHealth
  | checkReadiness
  | describe
  | showReference
  | createTokenReview (ns : Option String)
  | createAccessToken
  | getAccessToken (name : String)
  | deleteAccessToken (name : String)
  | createUser
  | getUser (name : String)
deriving DecidableEq, Repr

namespace Route

/-- The route of a path's segments. -/
def ofSegments : List String → Option Route
  | ["", "healthz"] => some health
  | ["", "readyz"] => some readiness
  | ["", "openapi.json"] => some description
  | ["", "scalar"] => some reference
  | ["", "apis", "oauth.openshift.io", "v1", "tokenreviews"] => some tokenReviews
  | ["", "apis", "oauth.openshift.io", "v1", "namespaces", ns, "tokenreviews"] =>
    some (namespacedTokenReviews ns)
  | ["", "apis", "oauth.openshift.io", "v1", "oauthaccesstokens"] => some accessTokens
  | ["", "apis", "oauth.openshift.io", "v1", "oauthaccesstokens", name] =>
    if name = "" then none else some (accessToken name)
  | ["", "apis", "user.openshift.io", "v1", "users"] => some users
  | ["", "apis", "user.openshift.io", "v1", "users", name] =>
    if name = "" then none else some (user name)
  | _ => none

/-- The route of a path. -/
def ofPath (path : String) : Option Route :=
  ofSegments ((Text.fields '/' path.toList).map String.ofList)

/-- Whether only authenticated and authorized callers get any further. -/
def isProtected : Route → Bool
  | health | readiness | description | reference => false
  | _ => true

/-- The routes below `/apis` are protected, and no others. -/
theorem isProtected_iff {segments : List String} {route : Route}
    (matched : ofSegments segments = some route) :
    route.isProtected = true ↔ segments[1]? = some "apis" := by
  unfold ofSegments at matched
  split at matched
  case h_8 | h_10 =>
    split at matched
    · cases matched
    · obtain rfl := Option.some.inj matched
      simp [isProtected]
  case h_11 => cases matched
  all_goals
    obtain rfl := Option.some.inj matched
    simp [isProtected]

/-- The methods that a route has, in alphabetical order. -/
def methods : Route → List String
  | health | readiness | description | reference | user _ => ["GET", "HEAD"]
  | tokenReviews | namespacedTokenReviews _ | accessTokens | users => ["POST"]
  | accessToken _ => ["DELETE", "GET", "HEAD"]

/-- What a method does on a route, if the route has it. -/
def endpoint? (route : Route) (method : String) : Option Endpoint :=
  match route, if method = "HEAD" then "GET" else method with
  | health, "GET" => some .checkHealth
  | readiness, "GET" => some .checkReadiness
  | description, "GET" => some .describe
  | reference, "GET" => some .showReference
  | tokenReviews, "POST" => some (.createTokenReview none)
  | namespacedTokenReviews ns, "POST" => some (.createTokenReview (some ns))
  | accessTokens, "POST" => some .createAccessToken
  | accessToken name, "GET" => some (.getAccessToken name)
  | accessToken name, "DELETE" => some (.deleteAccessToken name)
  | users, "POST" => some .createUser
  | user name, "GET" => some (.getUser name)
  | _, _ => none

end Route
end Server
end TokenAuthority
