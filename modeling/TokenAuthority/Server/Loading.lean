/-
# The application that settings and files describe

The file of configured tokens is read first and that of policy rules second, each only if the
settings name it. A plugin's configuration file lies in the directory that the settings name, and
may be missing; if it is there, it must be possible to open it.
-/

import TokenAuthority.Authentication.TokenFile
import TokenAuthority.Authorization.PolicyFile
import TokenAuthority.Files
import TokenAuthority.Server.Assembly

namespace TokenAuthority

namespace Files

variable {m : Type → Type} [Monad m] [Backend m]

/-- Reads a YAML file. -/
def load {α : Type} (files : Files m) (ofText : String → Except Yaml.Fault α) (path : String) :
    m (Except SetupError α) := do
  match ← files path with
  | .error e => return .error (.unreadable path e.message)
  | .ok text =>
    match ofText text with
    | .error fault => return .error (.malformed path fault.message)
    | .ok value =>
      Backend.info ("Loaded " ++ path)
      return .ok value

/-- Reads a YAML file that holds a list, if one is named. -/
def loadList {α : Type} (files : Files m) (ofText : String → Except Yaml.Fault (List α))
    (noun : String) : Option String → m (Except SetupError (List α))
  | none => return .ok []
  | some path => do
    match ← files.load ofText path with
    | .error e => return .error e
    | .ok items =>
      Backend.info ("Loaded " ++ toString items.length ++ " " ++ noun ++ " from " ++ path)
      return .ok items

end Files

namespace App

variable {m : Type → Type} [Monad m] [Backend m]

/-- Sets up the application that settings and files describe. -/
def load (s : Settings) (files : Files m) (post : Webhook.Transport m) :
    m (Except SetupError (App m)) := do
  match ← files.loadList StaticToken.listOfText "static tokens"
      s.authentication.staticTokensFile with
  | .error e => return .error e
  | .ok tokens =>
    match ← files.loadList PolicyRule.listOfText "policy rules" s.authorization.policyFile with
    | .error e => return .error e
    | .ok policy =>
      assemble s tokens policy post (files.contents? s.admission.configurationDirectory)

end App
end TokenAuthority
