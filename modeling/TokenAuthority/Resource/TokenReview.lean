/-
# Token reviews

A review asks whether a bearer token is good, and for which audiences. It is never stored: the
answer is the same object with its status filled in.
-/

import TokenAuthority.Resource.Metadata

namespace TokenAuthority
namespace Resource

open Json (Value Reader Record)

/-- What is asked. -/
structure TokenReviewSpec where
  /-- The bearer token. -/
  token : String := ""
  /-- The audiences for which it should be good; none stands for those of the server. -/
  audiences : List String := []
deriving DecidableEq, Repr, Inhabited

/-- Whom a token stands for. -/
structure TokenReviewUser where
  username : String
  uid : String := ""
  groups : List String := []
  extra : KeyedMap (List String) := .empty
deriving DecidableEq, Repr, Inhabited

/-- The answer. -/
structure TokenReviewStatus where
  authenticated : Bool := false
  user : Option TokenReviewUser := none
  audiences : List String := []
  error : Option String := none
deriving DecidableEq, Repr, Inhabited

/-- A token review. -/
structure TokenReview where
  apiVersion : String := "authentication.k8s.io/v1"
  kind : String := "TokenReview"
  metadata : Metadata := {}
  spec : TokenReviewSpec := {}
  status : TokenReviewStatus := {}
deriving DecidableEq, Repr, Inhabited

namespace TokenReviewSpec

/-- How the question is read. -/
def record : Record TokenReviewSpec :=
  TokenReviewSpec.mk <$> Record.field "token" Reader.string ""
    <*> Record.field "audiences" texts []

/-- The question in JSON. -/
def toJson (s : TokenReviewSpec) : Value :=
  members [("token", some (.string s.token)), ("audiences", textsUnlessEmpty s.audiences)]

/-- The question written out. -/
def dump (s : TokenReviewSpec) : Text.Dump :=
  .record "TokenReviewSpec" [("token", .text s.token), ("audiences", .texts s.audiences)]

end TokenReviewSpec

namespace TokenReviewUser

/-- How a token's user is read. -/
def record : Record TokenReviewUser :=
  TokenReviewUser.mk <$> Record.required "username" Reader.string
    <*> Record.field "uid" Reader.string ""
    <*> Record.field "groups" texts []
    <*> Record.field "extra" (Reader.map texts) .empty

/-- A token's user in JSON. -/
def toJson (u : TokenReviewUser) : Value :=
  members [
    ("username", some (.string u.username)),
    ("uid", textUnlessEmpty u.uid),
    ("groups", textsUnlessEmpty u.groups),
    ("extra", if u.extra.isEmpty then none
      else some (.object (u.extra.entries.map fun (k, v) => (k, Value.strings v))))]

/-- A token's user written out. -/
def dump (u : TokenReviewUser) : Text.Dump :=
  .record "TokenReviewUser" [
    ("username", .text u.username),
    ("uid", .text u.uid),
    ("groups", .texts u.groups),
    ("extra", .map (u.extra.entries.map fun (k, v) => (k, .wrapped "ExtraValue" (.texts v))))]

end TokenReviewUser

namespace TokenReviewStatus

/-- How the answer is read. -/
def record : Record TokenReviewStatus :=
  TokenReviewStatus.mk <$> Record.field "authenticated" Reader.bool false
    <*> Record.optional "user" TokenReviewUser.record.read
    <*> Record.field "audiences" texts []
    <*> Record.optional "error" Reader.string

/-- The answer in JSON. -/
def toJson (s : TokenReviewStatus) : Value :=
  members [
    ("authenticated", some (.bool s.authenticated)),
    ("user", s.user.map TokenReviewUser.toJson),
    ("audiences", textsUnlessEmpty s.audiences),
    ("error", s.error.map .string)]

/-- The answer written out. -/
def dump (s : TokenReviewStatus) : Text.Dump :=
  .record "TokenReviewStatus" [
    ("authenticated", .plain (if s.authenticated then "true" else "false")),
    ("user", .optional TokenReviewUser.dump s.user),
    ("audiences", .texts s.audiences),
    ("error", .optional .text s.error)]

end TokenReviewStatus

namespace TokenReview

/-- A review of a token. -/
def forToken (token : String) : TokenReview :=
  { spec := { token } }

/-- The review for some audiences. -/
def withAudiences (r : TokenReview) (audiences : List String) : TokenReview :=
  { r with spec := { r.spec with audiences } }

/-- How a review is read. -/
def record : Record TokenReview :=
  TokenReview.mk <$> Record.field "apiVersion" Reader.string "authentication.k8s.io/v1"
    <*> Record.field "kind" Reader.string "TokenReview"
    <*> Record.field "metadata" Metadata.record.read {}
    <*> Record.field "spec" TokenReviewSpec.record.read {}
    <*> Record.field "status" TokenReviewStatus.record.read {}

/-- A review in JSON. -/
def toJson (r : TokenReview) : Value :=
  members [
    ("apiVersion", some (.string r.apiVersion)),
    ("kind", some (.string r.kind)),
    ("metadata", some r.metadata.toJson),
    ("spec", some r.spec.toJson),
    ("status", some r.status.toJson)]

/-- A review written out. -/
def dump (r : TokenReview) : Text.Dump :=
  .record "TokenReview" [
    ("api_version", .text r.apiVersion),
    ("kind", .text r.kind),
    ("metadata", r.metadata.dump),
    ("spec", r.spec.dump),
    ("status", r.status.dump)]

end TokenReview
end Resource
end TokenAuthority
