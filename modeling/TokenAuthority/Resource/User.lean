/-
# Users
-/

import TokenAuthority.Resource.Metadata

namespace TokenAuthority
namespace Resource

open Json (Value Reader Record)

/-- A user. -/
structure User where
  apiVersion : String := "user.openshift.io/v1"
  kind : String := "User"
  metadata : Metadata := {}
  fullName : Option String := none
  /-- The identities of the user at other providers. -/
  identities : List String := []
  groups : List String := []
deriving DecidableEq, Repr, Inhabited

namespace User

/-- How a user is read. -/
def record : Record User :=
  User.mk <$> Record.field "apiVersion" Reader.string "user.openshift.io/v1"
    <*> Record.field "kind" Reader.string "User"
    <*> Record.field "metadata" Metadata.record.read {}
    <*> Record.optional "fullName" Reader.string
    <*> Record.field "identities" texts []
    <*> Record.field "groups" texts []

/-- A user in JSON. -/
def toJson (u : User) : Value :=
  members [
    ("apiVersion", some (.string u.apiVersion)),
    ("kind", some (.string u.kind)),
    ("metadata", some u.metadata.toJson),
    ("fullName", u.fullName.map .string),
    ("identities", some (Value.strings u.identities)),
    ("groups", some (Value.strings u.groups))]

/-- A user written out. -/
def dump (u : User) : Text.Dump :=
  .record "User" [
    ("api_version", .text u.apiVersion),
    ("kind", .text u.kind),
    ("metadata", u.metadata.dump),
    ("full_name", .optional .text u.fullName),
    ("identities", .texts u.identities),
    ("groups", .texts u.groups)]

end User
end Resource
end TokenAuthority
