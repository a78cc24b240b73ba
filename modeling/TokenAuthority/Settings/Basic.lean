/-
# Settings

What an operator may choose, grouped as in the configuration file.

| group | settings |
| --- | --- |
| — | the port |
| `tokenReview` | audiences, time limit, whether errors are told, who reviews |
| `authentication` | the file of configured tokens, the inactivity timeout, the remote reviewer |
| `authorization` | the file of policy rules |
| `admission` | the enabled plugins, the directory of their configuration files |
| `storage` | how many objects a store holds |

Times are in seconds. Lists are written as one text with commas between the entries.
-/

import TokenAuthority.Text.Blank

namespace TokenAuthority

/-- Who reviews tokens. -/
inductive ReviewBackend where
  /-- This server, by its stored access tokens. -/
  | accessTokens
  /-- A remote server. -/
  | webhook
  /-- Nobody: no token is ever accepted. -/
  | none
deriving DecidableEq, Repr

namespace ReviewBackend

/-- The word for a backend. -/
def word : ReviewBackend → String
  | accessTokens => "access-tokens"
  | webhook => "webhook"
  | none => "none"

/-- The backend of a word. -/
def ofWord? (word : String) : Option ReviewBackend :=
  [accessTokens, webhook, none].find? (·.word = word)

end ReviewBackend

namespace Settings

/-- How tokens are reviewed. -/
structure TokenReview where
  audiences : String := ""
  timeout : UInt64 := 10
  exposesErrors : Bool := true
  backend : ReviewBackend := .accessTokens
deriving DecidableEq, Repr

/-- The remote reviewer. -/
structure Webhook where
  url : Option String := none
  timeout : UInt64 := 10
deriving DecidableEq, Repr

/-- How callers are authenticated. -/
structure Authentication where
  staticTokensFile : Option String := none
  inactivityTimeout : Option UInt64 := none
  webhook : Webhook := {}
deriving DecidableEq, Repr

/-- How callers are authorized. -/
structure Authorization where
  policyFile : Option String := none
deriving DecidableEq, Repr

/-- How changes are admitted. -/
structure Admission where
  plugins : String := "oauth.openshift.io/AuditLogouts"
  configurationDirectory : Option String := none
deriving DecidableEq, Repr

/-- How objects are stored. -/
structure Storage where
  capacity : UInt64 := 100000
deriving DecidableEq, Repr

end Settings

/-- What an operator may choose. -/
structure Settings where
  port : UInt16 := 8080
  tokenReview : Settings.TokenReview := {}
  authentication : Settings.Authentication := {}
  authorization : Settings.Authorization := {}
  admission : Settings.Admission := {}
  storage : Settings.Storage := {}
deriving DecidableEq, Repr

namespace Settings

/-- The audiences of the server. -/
def TokenReview.audienceList (s : TokenReview) : List String :=
  Text.splitList s.audiences

/-- The names of the enabled plugins. -/
def Admission.pluginNames (s : Admission) : List String :=
  Text.splitList s.plugins

end Settings
end TokenAuthority
