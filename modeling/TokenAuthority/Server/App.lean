/-
# The application

A request whose path leads nowhere is answered 404. Behind a protected route, whatever its method,
the caller is first authenticated (401) and then authorized (403, or 500 if that fails); only then
does the method count (405).

| request | checks, in order |
| --- | --- |
| create an access token | body, name, client, user, identifier of the user, admission, store |
| delete an access token | path, existence, admission, existence |
| create a user | body, name, admission, store |
| review a token | path, body, `Reviewer.create` |

Each change that is made is noted in the audit once.
-/

import TokenAuthority.Admission.Basic
import TokenAuthority.Http.Percent
import TokenAuthority.Review
import TokenAuthority.Server.Body
import TokenAuthority.Server.Description
import TokenAuthority.Server.Route

namespace TokenAuthority

open Http (Request Response)

namespace Collection

/-- The resource of a collection, with its group. -/
def groupResource : Collection → Admission.GroupResource
  | accessTokens => ⟨Resource.oauthGroup, Resource.accessTokens⟩
  | users => ⟨Resource.userGroup, Resource.users⟩

/-- An object of a collection as an object of any resource. -/
def object : (c : Collection) → c.Object → Resource.Object
  | accessTokens, t => .accessToken t
  | users, u => .user u

/-- How an object of a collection is read. -/
def record : (c : Collection) → Json.Record c.Object
  | accessTokens => Resource.AccessToken.record
  | users => Resource.User.record

/-- An object of a collection in JSON. -/
def toJson (c : Collection) (o : c.Object) : Json.Value :=
  (c.object o).toJson

/-- What is wrong with a new object, if anything. -/
def fault? : (c : Collection) → c.Object → Option String
  | accessTokens, t =>
    if Text.byteLength t.metadata.name < 32 then
      some "metadata.name: must be at least 32 characters long"
    else if t.clientName = "" then some "clientName: Required value"
    else if t.userName = "" then some "userName: Required value"
    else if t.userUid = "" then some "userUID: Required value"
    else none
  | users, u =>
    if u.metadata.name = "" then some "metadata.name: Required value" else none

end Collection

/-- What answers requests. -/
structure App (m : Type → Type) where
  /-- Authenticates the callers of protected routes. -/
  authenticator : RequestAuthenticator m
  /-- Decides what they may do. -/
  authorizer : Authorizer m
  admission : List (Admission.Plugin m)
  reviewer : Reviewer m

namespace App

open Server (Endpoint Route)

variable {m : Type → Type} [Monad m] [Backend m]

/-- The answer to a path that cannot be decoded. -/
def invalidPath : Response :=
  .plain 400 "Invalid URL"

/-- What a caller is told who may not do something. -/
def forbiddenMessage (a : Attributes) : String :=
  if a.isResource then
    a.userName ++ " cannot " ++ a.verb ++ " resource \"" ++ a.resource ++ "\" in API group \"" ++
      a.apiGroup ++ "\""
  else a.userName ++ " cannot " ++ a.verb ++ " path \"" ++ a.path ++ "\""

/-- The caller of a request, or the answer to one that is not known. -/
def authenticate (app : App m) (request : Request) : m (Except Response Identity) := do
  let refusal := Response.ofFailure (.unauthorized "Unauthorized")
  if (Http.Header.first? request.headers Bearer.fieldName).isNone then
    Backend.warn "Missing Authorization header"
    return .error refusal
  match ← app.authenticator { headers := request.headers } with
  | .ok (some accepted) => return .ok accepted.user
  | .ok none => return .error refusal
  | .error e =>
    Backend.warn ("Authentication failed: " ++ e.message)
    return .error refusal

/-- Whether a caller may make a request, or the answer to one who may not. -/
def authorize (app : App m) (request : Request) (caller : Identity) :
    m (Except Response Unit) := do
  let attributes := Attributes.resolve request.method request.path (some caller)
  match ← app.authorizer attributes with
  | .ok ⟨.allow, _⟩ => return .ok ()
  | .ok _ => return .error (.ofFailure (.forbidden (forbiddenMessage attributes)))
  | .error e =>
    Backend.error ("Authorization failed for " ++ request.path ++ ": " ++ e.message)
    return .error (.ofFailure (.internal e.message))

/-- Whether the stores are in order. -/
def checkHealth : m (Except String Unit) := do
  match ← Backend.health .accessTokens with
  | .error e => return .error e
  | .ok () => Backend.health .users

/-- Answers whether the server is ready. -/
def checkReadiness : m Response := do
  match ← checkHealth with
  | .ok () => return .plain 200 "ok"
  | .error e =>
    Backend.warn ("Readiness check failed: " ++ e)
    return .plain 503 ("storage: " ++ e)

/-- Reviews the token that a body carries. -/
def createTokenReview (app : App m) (ns : Option String) (request : Request) : m Response := do
  match Server.readBody Resource.TokenReview.record request with
  | .error e => return e.response
  | .ok review =>
    match ← app.reviewer.create ns review with
    | .ok review => return .json 201 review.toJson
    | .error failure => return .ofFailure failure

/-- Creates the object that a body carries. -/
def create (app : App m) (c : Collection) (caller : Identity) (request : Request) :
    m Response := do
  match Server.readBody c.record request with
  | .error e => return e.response
  | .ok object =>
    if let some fault := c.fault? object then return .ofFailure (.badRequest fault)
    let (change, verdict) ← Admission.validate app.admission {
      resource := c.groupResource
      operation := .create
      name := Stored.name object
      user := some caller
      object := some (c.object object) }
    if let .error e := verdict then return .ofFailure e.toFailure
    match ← Backend.create c object with
    | .error e => return .ofFailure e.toFailure
    | .ok created =>
      Backend.audit (change.auditEvent "create" 201)
      return .json 201 (c.toJson created)

/-- Gets an object. -/
def get (c : Collection) (name : String) : m Response := do
  match ← Backend.find c name with
  | some object => return .json 200 (c.toJson object)
  | none => return .ofFailure (.notFound (Stored.resource c.Object) name)

/-- Deletes an access token. -/
def deleteAccessToken (app : App m) (caller : Identity) (name : String) : m Response := do
  match ← Backend.find .accessTokens name with
  | none => return .ofFailure (.notFound Resource.accessTokens name)
  | some existing =>
    let (change, verdict) ← Admission.validate app.admission {
      resource := Collection.accessTokens.groupResource
      operation := .delete
      name := name
      user := some caller
      object := some (.accessToken existing) }
    if let .error e := verdict then return .ofFailure e.toFailure
    match ← Backend.remove .accessTokens name with
    | .error e => return .ofFailure e.toFailure
    | .ok deleted =>
      Backend.info ("Deleted oauthaccesstoken " ++ name ++ " of user " ++ deleted.userName)
      Backend.audit (change.auditEvent "delete" 200)
      return .json 200 deleted.toJson

/-- Goes on with the text that a segment of the path stands for. -/
def decoding (segment : String) (next : String → m Response) : m Response :=
  match Http.Percent.decodeText? segment with
  | some text => next text
  | none => return invalidPath

/-- Does what a request wants done. The caller is the one that was authenticated; an endpoint that
anyone may use does not look at it. -/
def perform (app : App m) (caller : Identity) (request : Request) : Endpoint → m Response
  | .checkHealth => return .plain 200 "ok"
  | .checkReadiness => checkReadiness
  | .describe => return .json 200 Server.description
  | .showReference => return { status := 200, content := some (.html Server.reference) }
  | .createTokenReview none => app.createTokenReview none request
  | .createTokenReview (some ns) =>
    decoding ns fun ns => app.createTokenReview (some ns) request
  | .createAccessToken => app.create .accessTokens caller request
  | .getAccessToken name => decoding name (get .accessTokens)
  | .deleteAccessToken name => decoding name (app.deleteAccessToken caller)
  | .createUser => app.create .users caller request
  | .getUser name => decoding name (get .users)

/-- Answers a request to a route on behalf of a caller. -/
def dispatch (app : App m) (route : Route) (caller : Identity) (request : Request) : m Response :=
  match route.endpoint? request.method with
  | some endpoint => app.perform caller request endpoint
  | none => return { status := 405 }

/-- Lets a request through on behalf of its caller, or tells how it is answered instead. -/
def screen (app : App m) (request : Request) : m (Except Response Identity) := do
  match ← app.authenticate request with
  | .error response => return .error response
  | .ok caller =>
    match ← app.authorize request caller with
    | .error response => return .error response
    | .ok () => return .ok caller

/-- Lets only authenticated and authorized callers of protected routes get any further. -/
def guard (app : App m) (route : Route) (request : Request) : m Response :=
  if route.isProtected then do
    match ← app.screen request with
    | .error response => return response
    | .ok caller => app.dispatch route caller request
  else app.dispatch route {} request

/-- What is told of a response: a method that the route does not have is answered with those that it
has, and a `HEAD` request without the content. -/
def finish (route : Route) (method : String) (response : Response) : Response :=
  { response with
    allow := if (route.endpoint? method).isSome then [] else route.methods
    isBodiless := method = "HEAD" }

/-- Answers a request. -/
def answer (app : App m) (request : Request) : m Response :=
  match Route.ofPath request.path with
  | none => return { status := 404 }
  | some route => return finish route request.method (← app.guard route request)

end App
end TokenAuthority
