/-
# The description of the API

What the server offers, in the form of an OpenAPI 3.1 document, and a page that shows it.
-/

import TokenAuthority.Json.Value

namespace TokenAuthority
namespace Server

open Json (Value)

/-- What a value of a schema looks like. -/
inductive Shape where
  | text
  | timestamp
  | flag
  /-- An integer of a number of bits. -/
  | integer (bits : Nat)
  | list (item : Shape)
  | dictionary (item : Shape)
  | schema (name : String)
  | optional (shape : Shape)

namespace Shape

/-- The reference to a schema. -/
def reference (name : String) : Value :=
  .object [("$ref", .string ("#/components/schemas/" ++ name))]

/-- The members that describe a shape. -/
def members : Shape → List (String × Value)
  | text => [("type", .string "string")]
  | timestamp => [("type", .string "string"), ("format", .string "date-time")]
  | flag => [("type", .string "boolean")]
  | integer bits => [("type", .string "integer"), ("format", .string ("int" ++ toString bits))]
  | list item => [("type", .string "array"), ("items", .object (members item))]
  | dictionary item =>
    [("type", .string "object"), ("additionalProperties", .object (members item))]
  | schema name => [("$ref", .string ("#/components/schemas/" ++ name))]
  | optional (schema name) =>
    [("oneOf", .array [.object [("type", .string "null")], reference name])]
  | optional shape => (members shape).map fun
    | ("type", type) => ("type", .array [type, .string "null"])
    | other => other

/-- A shape in JSON. -/
def toJson (s : Shape) : Value :=
  .object s.members

end Shape

/-- A property of a schema. -/
structure Property where
  name : String
  shape : Shape
  description : String := ""
  isRequired : Bool := false

/-- A schema: an object with properties, or another name for a shape. -/
structure Schema where
  name : String
  description : String
  properties : List Property := []
  standsFor : Option Shape := none

/-- A member that is left out when its text is empty. -/
def describedBy (description : String) : List (String × Value) :=
  if description = "" then [] else [("description", .string description)]

namespace Schema

/-- A schema in JSON. -/
def toJson (s : Schema) : Value :=
  match s.standsFor with
  | some shape => .object (shape.members ++ describedBy s.description)
  | none =>
    let required := (s.properties.filter (·.isRequired)).map (·.name)
    .object ([("type", .string "object")] ++ describedBy s.description ++
      (if required.isEmpty then [] else [("required", Value.strings required)]) ++
      [("properties", .object (s.properties.map fun p =>
        (p.name, .object (p.shape.members ++ describedBy p.description))))])

end Schema

/-- A parameter of an operation. -/
structure Parameter where
  name : String
  /-- Where it is given: in the path or in a header field. -/
  place : String
  description : String

/-- What an operation answers. -/
structure Outcome where
  status : Nat
  description : String
  content : Option Shape := none

/-- An operation. -/
structure Operation where
  method : String
  path : String
  identifier : String
  tag : String
  summary : String
  parameters : List Parameter := []
  body : Option String := none
  outcomes : List Outcome

namespace Operation

/-- A content in JSON; texts are sent as they are. -/
def content : Shape → Value
  | .text => .object [("text/plain", .object [("schema", Shape.text.toJson)])]
  | shape => .object [("application/json", .object [("schema", shape.toJson)])]

/-- An operation in JSON. -/
def toJson (o : Operation) : Value :=
  .object ([
    ("tags", Value.strings [o.tag]),
    ("summary", .string o.summary),
    ("operationId", .string o.identifier)] ++
    (if o.parameters.isEmpty then []
      else [("parameters", .array (o.parameters.map fun p => .object [
        ("name", .string p.name),
        ("in", .string p.place),
        ("description", .string p.description),
        ("required", .bool true),
        ("schema", Shape.text.toJson)]))]) ++
    (match o.body with
      | some schema => [("requestBody", .object [
        ("content", content (.schema schema)), ("required", .bool true)])]
      | none => []) ++
    [("responses", .object (o.outcomes.map fun r => (toString r.status, .object (
      ("description", .string r.description) ::
        ((r.content.map content).toList.map fun c => ("content", c))))))])

end Operation

/-- A group of operations. -/
structure Tag where
  name : String
  description : String

/-- The operations on the state of the server. -/
def healthTag : Tag := ⟨"Health API", "Health check endpoints"⟩

/-- The operations on tokens. -/
def oauthTag : Tag := ⟨"OAuth API", "Token reviews and OAuth access tokens"⟩

/-- The operations on users. -/
def userTag : Tag := ⟨"User API", "Users known to the OAuth server"⟩

/-- The operations that the API has. -/
def operations : List Operation := [
  { method := "get", path := "/healthz", identifier := "healthz", tag := healthTag.name
    summary := "Liveness check handler"
    outcomes := [⟨200, "Service is alive", some .text⟩] },
  { method := "get", path := "/readyz", identifier := "readyz", tag := healthTag.name
    summary := "Readiness check handler, verifies the resource stores"
    outcomes := [
      ⟨200, "Service is ready", some .text⟩,
      ⟨503, "Service is not ready", some .text⟩] },
  { method := "post", path := "/apis/oauth.openshift.io/v1/tokenreviews"
    identifier := "create_token_review", tag := oauthTag.name
    summary := "Review an OAuth access token"
    parameters := [⟨"Authorization", "header", "Bearer token of the caller"⟩]
    body := some "TokenReview"
    outcomes := [
      ⟨201, "Review completed, see status", some (.schema "TokenReview")⟩,
      ⟨400, "Invalid review", none⟩,
      ⟨401, "Caller not authenticated", none⟩,
      ⟨403, "Caller may not create token reviews", none⟩,
      ⟨500, "Audience validation failed", none⟩] },
  { method := "post"
    path := "/apis/oauth.openshift.io/v1/namespaces/\x7bnamespace\x7d/tokenreviews"
    identifier := "create_namespaced_token_review", tag := oauthTag.name
    summary := "Token reviews are cluster scoped; this route only reports the error"
    parameters := [⟨"namespace", "path", "Namespace, always rejected"⟩]
    body := some "TokenReview"
    outcomes := [⟨400, "Namespace is not allowed", none⟩] },
  { method := "post", path := "/apis/oauth.openshift.io/v1/oauthaccesstokens"
    identifier := "create_access_token", tag := oauthTag.name
    summary := "Store a new OAuth access token"
    body := some "OAuthAccessToken"
    outcomes := [
      ⟨201, "Token stored", some (.schema "OAuthAccessToken")⟩,
      ⟨400, "Invalid token", none⟩,
      ⟨409, "Token already exists", none⟩] },
  { method := "get", path := "/apis/oauth.openshift.io/v1/oauthaccesstokens/\x7bname\x7d"
    identifier := "get_access_token", tag := oauthTag.name
    summary := "Get an OAuth access token by name"
    parameters := [⟨"name", "path", "Token object name"⟩]
    outcomes := [
      ⟨200, "Token found", some (.schema "OAuthAccessToken")⟩,
      ⟨404, "Token not found", none⟩] },
  { method := "delete", path := "/apis/oauth.openshift.io/v1/oauthaccesstokens/\x7bname\x7d"
    identifier := "delete_access_token", tag := oauthTag.name
    summary := "Delete an OAuth access token, logging the owner out"
    parameters := [⟨"name", "path", "Token object name"⟩]
    outcomes := [
      ⟨200, "Token deleted", some (.schema "OAuthAccessToken")⟩,
      ⟨403, "Rejected by admission", none⟩,
      ⟨404, "Token not found", none⟩] },
  { method := "post", path := "/apis/user.openshift.io/v1/users"
    identifier := "create_user", tag := userTag.name
    summary := "Create a user"
    body := some "User"
    outcomes := [
      ⟨201, "User created", some (.schema "User")⟩,
      ⟨400, "Invalid user", none⟩,
      ⟨409, "User already exists", none⟩] },
  { method := "get", path := "/apis/user.openshift.io/v1/users/\x7bname\x7d"
    identifier := "get_user", tag := userTag.name
    summary := "Get a user by name"
    parameters := [⟨"name", "path", "User name"⟩]
    outcomes := [
      ⟨200, "User found", some (.schema "User")⟩,
      ⟨404, "User not found", none⟩] }]

/-- The schemas of what the operations read and answer. -/
def schemas : List Schema := [
  { name := "ExtraValue", description := "Values of a single extra attribute"
    standsFor := some (.list .text) },
  { name := "OAuthAccessToken"
    description := "An OAuth access token issued to a user through a client"
    properties := [
      { name := "apiVersion", shape := .text },
      { name := "kind", shape := .text },
      { name := "metadata", shape := .schema "ObjectMeta" },
      { name := "clientName", shape := .text
        description := "Name of the OAuth client that requested the token" },
      { name := "expiresIn", shape := .integer 64
        description := "Lifetime in seconds from creation; zero never expires" },
      { name := "scopes", shape := .list .text },
      { name := "redirectUri", shape := .text },
      { name := "userName", shape := .text
        description := "Name of the user the token was issued to" },
      { name := "userUID", shape := .text
        description := "UID of the user the token was issued to" },
      { name := "authorizeToken", shape := .text },
      { name := "refreshToken", shape := .text },
      { name := "inactivityTimeoutSeconds", shape := .integer 32
        description :=
          "Seconds from creation after which an unused token times out; zero disables" }] },
  { name := "ObjectMeta", description := "Metadata shared by every object"
    properties := [
      { name := "name", shape := .text
        description := "Unique name of the object within its resource" },
      { name := "namespace", shape := .optional .text
        description := "Namespace of the object; cluster scoped resources leave it empty" },
      { name := "uid", shape := .optional .text
        description := "Server assigned unique identifier" },
      { name := "creationTimestamp", shape := .optional .timestamp
        description := "Time the object was persisted" }] },
  { name := "TokenReview", description := "Request to authenticate a bearer token."
    properties := [
      { name := "apiVersion", shape := .text },
      { name := "kind", shape := .text },
      { name := "metadata", shape := .schema "ObjectMeta" },
      { name := "spec", shape := .schema "TokenReviewSpec"
        description := "What should be reviewed" },
      { name := "status", shape := .schema "TokenReviewStatus"
        description := "Outcome of the review, filled in by the server" }] },
  { name := "TokenReviewSpec", description := ""
    properties := [
      { name := "token", shape := .text, description := "Opaque bearer token" },
      { name := "audiences", shape := .list .text
        description :=
          "Audiences the token should be valid for; empty means the server defaults" }] },
  { name := "TokenReviewStatus", description := ""
    properties := [
      { name := "authenticated", shape := .flag
        description := "Whether the token was accepted" },
      { name := "user", shape := .optional (.schema "TokenReviewUser")
        description := "Identity bound to the token, present only when authenticated" },
      { name := "audiences", shape := .list .text
        description := "Audiences the token is actually valid for" },
      { name := "error", shape := .optional .text
        description := "Why authentication failed, if it errored" }] },
  { name := "TokenReviewUser", description := ""
    properties := [
      { name := "username", shape := .text, isRequired := true },
      { name := "uid", shape := .text },
      { name := "groups", shape := .list .text },
      { name := "extra", shape := .dictionary (.schema "ExtraValue") }] },
  { name := "User", description := "A user known to the OAuth server"
    properties := [
      { name := "apiVersion", shape := .text },
      { name := "kind", shape := .text },
      { name := "metadata", shape := .schema "ObjectMeta" },
      { name := "fullName", shape := .optional .text },
      { name := "identities", shape := .list .text
        description := "Identities mapped to this user, as \x60provider:name\x60" },
      { name := "groups", shape := .list .text
        description := "Groups the user is a member of" }] }]

/-- The paths of the operations, each once, in the order of their first operation. -/
def paths : List String :=
  (operations.map (·.path)).eraseDups

/-- The description of the API. -/
def description : Value :=
  .object [
    ("openapi", .string "3.1.0"),
    ("info", .object [
      ("title", .string "OpenShift OAuth API Server"),
      ("description", .string "Serves OAuth resources and reviews OAuth access tokens"),
      ("version", .string "1.0.0")]),
    ("paths", .object (paths.map fun path =>
      (path, .object ((operations.filter (·.path = path)).map fun o => (o.method, o.toJson))))),
    ("components", .object [
      ("schemas", .object (schemas.map fun s => (s.name, s.toJson)))]),
    ("tags", .array ([healthTag, oauthTag, userTag].map fun t => .object [
      ("name", .string t.name), ("description", .string t.description)]))]

/-- A page that shows the description. -/
def reference : String :=
  "<!doctype html>\n<html>\n<head>\n<title>OpenShift OAuth API Server</title>\n" ++
  "<meta charset=\"utf-8\"/>\n</head>\n<body>\n" ++
  "<script id=\"api-reference\" type=\"application/json\">\n" ++ description.render ++
  "\n</script>\n</body>\n</html>\n"

end Server
end TokenAuthority
