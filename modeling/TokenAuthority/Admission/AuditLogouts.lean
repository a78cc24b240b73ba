/-
# Who is logged out

Deleting an access token logs its user out. The plugin notes whose token it was, so that the audit
shows it.
-/

import TokenAuthority.Admission.Basic

namespace TokenAuthority
namespace Admission
namespace AuditLogouts

/-- The name of the plugin. -/
def name : String := "oauth.openshift.io/AuditLogouts"

/-- The annotation that tells whose token was deleted. -/
def ownerKey : String := "oauth.admission.openshift.io/user"

/-- The changes that the plugin is about. -/
def accessTokens : GroupResource := ⟨Resource.oauthGroup, Resource.accessTokens⟩

/-- An object written out, with its kind in parentheses. -/
def describe : Option Resource.Object → String
  | some object => object.dump.render ++ " (" ++ object.kindName ++ ")"
  | none => "<nil> (<nil>)"

/-- The reason to forbid a change whose object belongs to nobody. -/
def reason (c : Change) : String :=
  "object was marked as kind oauthaccesstoken but was unable to be converted: " ++
    describe c.object ++ ", old object, " ++ describe c.oldObject

variable {m : Type → Type} [Monad m] [Backend m]

/-- Notes the owner of the object. -/
def validate (c : Change) : m Opinion :=
  if c.resource ≠ accessTokens then return {}
  else match c.object.bind (·.owner?) with
    | none => return { objection := some (c.forbid (reason c)) }
    | some owner => do
      Backend.info ("deletion of oauthaccesstoken for user " ++ owner)
      return { notes := [(ownerKey, owner)] }

/-- The plugin. -/
def plugin : Plugin m where
  name := name
  operations := [.delete]
  validate := validate

end AuditLogouts
end Admission
end TokenAuthority
