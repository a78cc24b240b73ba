/-
# The file of configured tokens

A YAML record with the one key `tokens`, a list of records.

| key | if missing |
| --- | --- |
| `token` | an error |
| `user` | an error |
| `uid` | empty |
| `groups` | none |
-/

import TokenAuthority.Authentication.Static
import TokenAuthority.Yaml.Extract

namespace TokenAuthority
namespace StaticToken

open Yaml (Extract)

/-- A token. -/
def ofNode (node : Yaml.Node) : Extract StaticToken := do
  let fields ← Extract.fields ["token", "user", "uid", "groups"] node
  return {
    token := ← fields.required "token" Extract.text
    user := ← fields.required "user" Extract.text
    uid := ← fields.optional "uid" Extract.text ""
    groups := ← fields.optional "groups" Extract.texts [] }

/-- The tokens of a file's text. -/
def listOfText : String → Except Yaml.Fault (List StaticToken) :=
  Extract.ofText fun root => do
    (← Extract.fields ["tokens"] root).optional "tokens" (Extract.list ofNode) []

end StaticToken
end TokenAuthority
