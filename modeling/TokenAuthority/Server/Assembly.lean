/-
# The application of some settings

Callers are authenticated by configured tokens first and stored access tokens second, and authorized
as the reviewing account or by a policy rule. The parts that can be missing are set up in this
order:

| part | fails if |
| --- | --- |
| the reviewer of tokens | it is remote, and its URL is missing or none |
| the admission plugins | one is unknown, or its configuration is faulty or cannot be opened |
-/

import TokenAuthority.Admission.Registry
import TokenAuthority.Authentication.AccessTokens
import TokenAuthority.Authentication.Combine
import TokenAuthority.Authentication.Static
import TokenAuthority.Authentication.Webhook
import TokenAuthority.Authorization.Policy
import TokenAuthority.Server.App
import TokenAuthority.Settings.Basic

namespace TokenAuthority

/-- Why an application cannot be set up. -/
inductive SetupError where
  /-- A file cannot be read. -/
  | unreadable (path detail : String)
  /-- A file does not hold what it should. -/
  | malformed (path detail : String)
  | admission (error : Admission.Error)
  | authenticator (error : AuthenticationError)
  | missingWebhookUrl
deriving Repr

namespace SetupError

/-- The message of an error. -/
def message : SetupError → String
  | unreadable path detail => "Failed to read " ++ path ++ ": " ++ detail
  | malformed path detail => "Failed to parse " ++ path ++ ": " ++ detail
  | admission e => "Failed to set up admission: " ++ e.message
  | authenticator e => "Failed to set up token review authenticator: " ++ e.message
  | missingWebhookUrl => "token review backend \"webhook\" requires a webhook URL"

end SetupError

/-- The empty stores of a server at some time. -/
def World.ofSettings (s : Settings) (clock : Time.Instant) : World where
  clock := clock
  accessTokens := { capacity := s.storage.capacity.toNat }
  users := { capacity := s.storage.capacity.toNat }

namespace App

variable {m : Type → Type} [Monad m] [Backend m]

/-- Accepts stored access tokens. -/
def storedTokens (s : Settings) : TokenAuthenticator m :=
  .accessTokens s.authentication.inactivityTimeout

/-- Accepts configured tokens, and then stored ones. -/
def callerAuthenticator (s : Settings) (tokens : List StaticToken) : RequestAuthenticator m :=
  .bearer (.union [.static tokens, storedTokens s])

/-- How tokens are reviewed with an authenticator, or without. -/
def reviewerWith (s : Settings) (authenticator : Option (TokenAuthenticator m)) : Reviewer m where
  authenticator := authenticator.map fun authenticate credentials => do
    return { verdict := ← RequestAuthenticator.bearer authenticate credentials }
  audiences := s.tokenReview.audienceList
  timeout := s.tokenReview.timeout.toNat * 1000
  exposesErrors := s.tokenReview.exposesErrors

/-- The application with the parts that had to be set up. -/
def ofParts (s : Settings) (tokens : List StaticToken) (policy : List PolicyRule)
    (review : Option (TokenAuthenticator m)) (admission : List (Admission.Plugin m)) : App m where
  authenticator := callerAuthenticator s tokens
  authorizer := .union [.tokenReviewer, .rules policy]
  admission := admission
  reviewer := reviewerWith s review

/-- The authenticator that reviews tokens, if there is one. -/
def reviewAuthenticator (s : Settings) (post : Webhook.Transport m) :
    m (Except SetupError (Option (TokenAuthenticator m))) := do
  match s.tokenReview.backend with
  | .accessTokens =>
    return .ok (some (.audienceAgnostic s.tokenReview.audienceList (storedTokens s)))
  | .webhook =>
    let webhook := s.authentication.webhook
    match webhook.url with
    | none => return .error .missingWebhookUrl
    | some text =>
      Backend.info ("Token reviews are delegated to " ++ text)
      match Webhook.url text with
      | .error e => return .error (.authenticator e)
      | .ok url => return .ok (some (.webhook post url webhook.timeout.toNat))
  | .none =>
    Backend.info "Token reviews are disabled and will never authenticate"
    return .ok none

/-- The enabled plugins. -/
def admissionChain (s : Settings) (configuration : String → ExceptT String m (Option String)) :
    m (Except SetupError (List (Admission.Plugin m))) := do
  match ← Admission.Registry.builtin.chain s.admission.pluginNames configuration with
  | .error e => return .error (.admission e)
  | .ok plugins =>
    Backend.info ("Admission plugins enabled: " ++ Text.quoteList (plugins.map (·.name)))
    return .ok plugins

/-- Sets up an application. `post` reaches the remote reviewer, and `configuration` tells the
contents of a plugin's configuration file if there is one, or why it cannot be opened. -/
def assemble (s : Settings) (tokens : List StaticToken) (policy : List PolicyRule)
    (post : Webhook.Transport m) (configuration : String → ExceptT String m (Option String)) :
    m (Except SetupError (App m)) := do
  match ← reviewAuthenticator s post with
  | .error e => return .error e
  | .ok review =>
    match ← admissionChain s configuration with
    | .error e => return .error e
    | .ok plugins => return .ok (ofParts s tokens policy review plugins)

end App
end TokenAuthority
