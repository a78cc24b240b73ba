/-
# Object metadata

Every object carries its name and, if they are known, its namespace, a unique identifier and the
time at which it was stored. In JSON an empty name and absent parts are left out.
-/

import TokenAuthority.Json.Record
import TokenAuthority.Text.Dump
import TokenAuthority.Time.Rfc3339

namespace TokenAuthority
namespace Resource

open Json (Value Reader Record)

/-- The API group of tokens and their reviews. -/
def oauthGroup : String := "oauth.openshift.io"

/-- The API group of users. -/
def userGroup : String := "user.openshift.io"

/-- The resource name of token reviews. -/
def tokenReviews : String := "tokenreviews"

/-- The resource name of access tokens. -/
def accessTokens : String := "oauthaccesstokens"

/-- The resource name of users. -/
def users : String := "users"

/-- The members of an object; those without a value are left out. -/
def members (fields : List (String × Option Value)) : Value :=
  .object (fields.filterMap fun (name, value) => value.map (name, ·))

/-- A text that is left out when empty. -/
def textUnlessEmpty (s : String) : Option Value :=
  if s = "" then none else some (.string s)

/-- A list of texts that is left out when empty. -/
def textsUnlessEmpty (items : List String) : Option Value :=
  if items.isEmpty then none else some (Value.strings items)

/-- Reads a list of texts. -/
def texts : Reader (List String) :=
  Reader.list Reader.string

/-- An instant in JSON. -/
def timestamp (i : Time.Instant) : Value :=
  .string (String.ofList (Time.Rfc3339.write i))

/-- Reads an instant. -/
def readTimestamp : Reader Time.Instant :=
  Reader.string.andThen fun s => Time.Rfc3339.read? s.toList

/-- What every object carries. -/
structure Metadata where
  name : String := ""
  namespaceName : Option String := none
  uid : Option String := none
  created : Option Time.Instant := none
deriving DecidableEq, Repr, Inhabited

namespace Metadata

/-- How metadata is read. -/
def record : Record Metadata :=
  Metadata.mk <$> Record.field "name" Reader.string ""
    <*> Record.optional "namespace" Reader.string
    <*> Record.optional "uid" Reader.string
    <*> Record.optional "creationTimestamp" readTimestamp

/-- Metadata in JSON. -/
def toJson (m : Metadata) : Value :=
  members [
    ("name", textUnlessEmpty m.name),
    ("namespace", m.namespaceName.map .string),
    ("uid", m.uid.map .string),
    ("creationTimestamp", m.created.map timestamp)]

/-- Metadata written out. -/
def dump (m : Metadata) : Text.Dump :=
  .record "ObjectMeta" [
    ("name", .text m.name),
    ("namespace", .optional .text m.namespaceName),
    ("uid", .optional .text m.uid),
    ("creation_timestamp", .optional
      (fun i => .plain (String.ofList (Time.Rfc3339.write i))) m.created)]

/-- The metadata with the time of storing filled in, unless it is known already. -/
def stamp (m : Metadata) (now : Time.Instant) : Metadata :=
  { m with created := some (m.created.getD now) }

end Metadata
end Resource
end TokenAuthority
