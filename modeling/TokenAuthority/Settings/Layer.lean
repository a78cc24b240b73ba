/-
# Settings from several places

A layer holds the settings that one place mentions. Environment variables count before the
configuration file, and both before what a server does when nobody says anything.
-/

import TokenAuthority.Settings.Basic

namespace TokenAuthority
namespace Settings

/-- The settings that one place mentions. -/
structure Layer where
  port : Option UInt16 := none
  audiences : Option String := none
  reviewTimeout : Option UInt64 := none
  exposesErrors : Option Bool := none
  backend : Option ReviewBackend := none
  staticTokensFile : Option String := none
  inactivityTimeout : Option UInt64 := none
  webhookUrl : Option String := none
  webhookTimeout : Option UInt64 := none
  policyFile : Option String := none
  plugins : Option String := none
  configurationDirectory : Option String := none
  capacity : Option UInt64 := none
deriving DecidableEq, Repr

namespace Layer

/-- A layer above another: its settings count where it has them. -/
def above (a b : Layer) : Layer where
  port := a.port <|> b.port
  audiences := a.audiences <|> b.audiences
  reviewTimeout := a.reviewTimeout <|> b.reviewTimeout
  exposesErrors := a.exposesErrors <|> b.exposesErrors
  backend := a.backend <|> b.backend
  staticTokensFile := a.staticTokensFile <|> b.staticTokensFile
  inactivityTimeout := a.inactivityTimeout <|> b.inactivityTimeout
  webhookUrl := a.webhookUrl <|> b.webhookUrl
  webhookTimeout := a.webhookTimeout <|> b.webhookTimeout
  policyFile := a.policyFile <|> b.policyFile
  plugins := a.plugins <|> b.plugins
  configurationDirectory := a.configurationDirectory <|> b.configurationDirectory
  capacity := a.capacity <|> b.capacity

/-- The settings of a layer, with defaults for those that it lacks. -/
def settings (l : Layer) : Settings :=
  let d : Settings := {}
  { port := l.port.getD d.port
    tokenReview := {
      audiences := l.audiences.getD d.tokenReview.audiences
      timeout := l.reviewTimeout.getD d.tokenReview.timeout
      exposesErrors := l.exposesErrors.getD d.tokenReview.exposesErrors
      backend := l.backend.getD d.tokenReview.backend }
    authentication := {
      staticTokensFile := l.staticTokensFile
      inactivityTimeout := l.inactivityTimeout
      webhook := {
        url := l.webhookUrl
        timeout := l.webhookTimeout.getD d.authentication.webhook.timeout } }
    authorization := { policyFile := l.policyFile }
    admission := {
      plugins := l.plugins.getD d.admission.plugins
      configurationDirectory := l.configurationDirectory }
    storage := { capacity := l.capacity.getD d.storage.capacity } }

end Layer
end Settings
end TokenAuthority
