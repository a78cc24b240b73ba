/-
# Attributes of a method and a path

| path | names |
| --- | --- |
| `/apis/group/version/resource/…` | a resource of a group |
| `/api/version/resource/…` | a resource without a group |

The resource may follow `namespaces/` and a namespace, and may be followed by a name and a
subresource; further segments count for nothing. Slashes at both ends count for nothing either. Any
other path names no resource, and its verb is the method in lower case.
-/

import TokenAuthority.Authorization.Basic
import TokenAuthority.Text.Blank

namespace TokenAuthority
namespace Attributes

/-- The segments of a path. -/
def segments (path : String) : List String :=
  (Text.fields '/' (Text.strip (· = '/') path.toList)).map String.ofList

/-- The verb for a resource that is named or not. -/
def resourceVerb (method : String) (named : Bool) : String :=
  match method with
  | "POST" => "create"
  | "GET" | "HEAD" => if named then "get" else "list"
  | "PUT" => "update"
  | "PATCH" => "patch"
  | "DELETE" => if named then "delete" else "deletecollection"
  | _ => ""

/-- The attributes with what the segments behind a version say. -/
def locate (a : Attributes) : List String → Attributes
  | "namespaces" :: ns :: resource :: rest =>
    place { a with namespaceName := ns } resource rest
  | resource :: rest => place a resource rest
  | [] => a
where
  /-- The attributes with a resource and what follows it. -/
  place (a : Attributes) (resource : String) (rest : List String) : Attributes :=
    { a with
      resource
      name := rest.head?.getD ""
      subresource := rest.tail.head?.getD ""
      isResource := true }

/-- The attributes with what the segments say, the verb excepted. -/
def ofSegments (a : Attributes) : List String → Attributes
  | "apis" :: group :: version :: resource :: rest =>
    locate { a with apiGroup := group, apiVersion := version } (resource :: rest)
  | "api" :: version :: resource :: rest =>
    locate { a with apiVersion := version } (resource :: rest)
  | _ => a

/-- The attributes of a request. -/
def resolve (method path : String) (user : Option Identity) : Attributes :=
  let a := ofSegments { user, path } (segments path)
  { a with verb := if a.isResource then resourceVerb method (a.name ≠ "") else Text.toLower method }

end Attributes
end TokenAuthority
