/-
# Policy rules

A rule grants verbs on resources or on paths to users and groups. It applies to a caller by name or
by one of the caller's groups, and permits a request by its verb and by

| request | lists |
| --- | --- |
| for a resource | `apiGroups`, and `resources`, where a subresource is written `resource/subresource` |
| for anything else | `nonResourceUrls` |

In a list `*` stands for everything; a path that ends in `*` stands for all that begin like it.
-/

import TokenAuthority.Authorization.Basic
import TokenAuthority.Resource.Metadata

namespace TokenAuthority

/-- A rule of a policy. -/
structure PolicyRule where
  users : List String := []
  groups : List String := []
  verbs : List String := []
  apiGroups : List String := []
  resources : List String := []
  nonResourceUrls : List String := []
deriving DecidableEq, Repr

namespace PolicyRule

/-- What stands for everything. -/
def wildcard : String := "*"

/-- Whether a list names something. -/
def names (list : List String) (wanted : String) : Bool :=
  list.any fun entry => entry = wildcard || entry = wanted

/-- Whether an entry stands for a path. -/
def coversPath (entry path : String) : Bool :=
  match entry.toList.reverse with
  | '*' :: stem => stem.reverse.isPrefixOf path.toList
  | _ => entry = path

/-- Whether the rule is for a user. -/
def appliesTo (r : PolicyRule) (user : Identity) : Bool :=
  names r.users user.name || user.groups.any (names r.groups ·)

/-- The resource with its subresource, as a rule writes them. -/
def resourceText (a : Attributes) : String :=
  if a.subresource = "" then a.resource else a.resource ++ "/" ++ a.subresource

/-- Whether the rule grants what is asked for. -/
def permits (r : PolicyRule) (a : Attributes) : Bool :=
  names r.verbs a.verb &&
    if a.isResource then names r.apiGroups a.apiGroup && names r.resources (resourceText a)
    else r.nonResourceUrls.any (coversPath · a.path)

/-- Whether the rule allows a request. -/
def allows (r : PolicyRule) (a : Attributes) : Bool :=
  match a.user with
  | none => false
  | some user => r.appliesTo user && r.permits a

end PolicyRule

namespace Authorizer

variable {m : Type → Type} [Monad m]

/-- Allows what a rule allows, and never denies. -/
def rules (policy : List PolicyRule) : Authorizer m := fun attributes =>
  return .ok (match policy.findIdx? (·.allows attributes) with
    | some index => ⟨.allow, "allowed by policy rule " ++ toString index⟩
    | none => ⟨.noOpinion, ""⟩)

/-- The account that reviews tokens on behalf of the cluster. -/
def reviewerAccount : String :=
  "system:serviceaccount:openshift-oauth-apiserver:openshift-authenticator"

/-- Whether the reviewing account asks for a review. -/
def isReviewByReviewer (a : Attributes) : Bool :=
  a.userName = reviewerAccount && a.isResource && a.verb = "create" &&
    a.apiGroup = Resource.oauthGroup && a.resource = Resource.tokenReviews && a.subresource = ""

/-- Lets the reviewing account create token reviews, and never denies. -/
def tokenReviewer : Authorizer m := fun attributes =>
  return .ok (if isReviewByReviewer attributes then
      ⟨.allow, "requesting tokenreviews is allowed"⟩
    else ⟨.noOpinion, ""⟩)

end Authorizer
end TokenAuthority
