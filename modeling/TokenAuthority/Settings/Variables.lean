/-
# Settings in environment variables

| setting | text |
| --- | --- |
| number | blanks around an optional `+` and decimal digits, within the bounds of the setting |
| flag | `1`, `true`, `yes`, `0`, `false` or `no`, in any case, with blanks around it |
| backend | its word |
| other | as it is |

A variable that is empty counts only where the empty text is a value.
-/

import TokenAuthority.Settings.Layer
import TokenAuthority.Text.Digits

namespace TokenAuthority
namespace Settings

/-- The values of environment variables. -/
abbrev Variables := String → Option String

namespace Variables

/-- The name of a variable. -/
def named (name : String) : String :=
  "OAUTH_APISERVER_" ++ name

/-- A number below a bound. -/
def number? (bound : Nat) (text : String) : Option Nat :=
  let digits := match (Text.trim text).toList with
    | '+' :: digits => digits
    | digits => digits
  if digits = [] then none else (Text.number? 10 digits).filter (· < bound)

/-- A number of 16 bits. -/
def number16? (text : String) : Option UInt16 :=
  (number? UInt16.size text).map UInt16.ofNat

/-- A number of 64 bits. -/
def number64? (text : String) : Option UInt64 :=
  (number? UInt64.size text).map UInt64.ofNat

/-- A flag. -/
def flag? (text : String) : Option Bool :=
  let word := Text.toLower (Text.trim text)
  if ["1", "true", "yes"].contains word then some true
  else if ["0", "false", "no"].contains word then some false
  else none

/-- The value of a variable, if it counts; or the name of the variable, if it has none. -/
def value {α : Type} (environment : Variables) (name : String) (read : String → Option α) :
    Except String (Option α) :=
  match environment (named name) with
  | none => .ok none
  | some text =>
    match read text with
    | some a => .ok (some a)
    | none => if text = "" then .ok none else .error (named name)

/-- The settings in the environment, or the name of a variable that has no meaning. -/
def layer (environment : Variables) : Except String Layer := do
  return {
    port := ← environment.value "PORT" number16?
    audiences := ← environment.value "API_AUDIENCES" some
    reviewTimeout := ← environment.value "TOKEN_REVIEW_TIMEOUT" number64?
    exposesErrors := ← environment.value "EXPOSE_AUTHENTICATOR_ERRORS" flag?
    backend := ← environment.value "TOKEN_REVIEW_BACKEND" ReviewBackend.ofWord?
    staticTokensFile := ← environment.value "STATIC_TOKENS_FILE" some
    inactivityTimeout := ← environment.value "ACCESS_TOKEN_INACTIVITY_TIMEOUT" number64?
    webhookUrl := ← environment.value "WEBHOOK_URL" some
    webhookTimeout := ← environment.value "WEBHOOK_TIMEOUT" number64?
    policyFile := ← environment.value "POLICY_FILE" some
    plugins := ← environment.value "ADMISSION_PLUGINS" some
    configurationDirectory := ← environment.value "ADMISSION_CONFIG_DIR" some
    capacity := ← environment.value "STORAGE_CAPACITY" number64? }

/-- The path of the configuration file. -/
def configurationFile (environment : Variables) : String :=
  (environment (named "CONFIG")).getD "oauth-apiserver.toml"

end Variables
end Settings
end TokenAuthority
