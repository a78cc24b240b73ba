/-
# The file of policy rules

A YAML record with the one key `rules`, a list of records whose keys are those of `PolicyRule`.
Every key may be missing, and stands for an empty list then.
-/

import TokenAuthority.Authorization.Policy
import TokenAuthority.Yaml.Extract

namespace TokenAuthority
namespace PolicyRule

open Yaml (Extract)

/-- A rule. -/
def ofNode (node : Yaml.Node) : Extract PolicyRule := do
  let fields ← Extract.fields
    ["users", "groups", "verbs", "apiGroups", "resources", "nonResourceUrls"] node
  let texts (name : String) : Extract (List String) := fields.optional name Extract.texts []
  return {
    users := ← texts "users"
    groups := ← texts "groups"
    verbs := ← texts "verbs"
    apiGroups := ← texts "apiGroups"
    resources := ← texts "resources"
    nonResourceUrls := ← texts "nonResourceUrls" }

/-- The rules of a file's text. -/
def listOfText : String → Except Yaml.Fault (List PolicyRule) :=
  Extract.ofText fun root => do
    (← Extract.fields ["rules"] root).optional "rules" (Extract.list ofNode) []

end PolicyRule
end TokenAuthority
