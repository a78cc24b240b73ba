/-
# Loading the settings

The configuration file need not be there, but its name must tell that it is TOML. Every place is
read in full, so that a mistake is found even where another place decides.
-/

import TokenAuthority.Files
import TokenAuthority.Settings.File
import TokenAuthority.Settings.Variables

namespace TokenAuthority
namespace Settings

/-- Why there are no settings. -/
inductive LoadError where
  /-- A variable has no meaning. -/
  | invalidVariable (name : String)
  /-- The configuration file is of an unknown kind. -/
  | unknownKind (path : String)
  | unreadable (path : String) (error : FileError)
  /-- The configuration file does not hold what it should. -/
  | malformed (path : String)
deriving DecidableEq, Repr

namespace LoadError

/-- What is wrong. -/
def detail : LoadError → String
  | invalidVariable name => "invalid value of environment variable " ++ name
  | unknownKind path => "unknown kind of configuration file " ++ path
  | unreadable path e => "cannot read configuration file " ++ path ++ ": " ++ e.message
  | malformed path => "invalid configuration file " ++ path

/-- The message of an error. -/
def message (e : LoadError) : String :=
  "Failed to load settings: " ++ e.detail

end LoadError

/-- The settings in a configuration file. -/
def File.layer (path : String) : Except FileError String → Except LoadError Layer
  | .error .missing => .ok {}
  | .error e => .error (.unreadable path e)
  | .ok text =>
    match layer? text with
    | some layer => .ok layer
    | none => .error (.malformed path)

/-- Loads the settings. -/
def load {m : Type → Type} [Monad m] (environment : Variables) (files : Files m) :
    m (Except LoadError Settings) := do
  match environment.layer with
  | .error name => return .error (.invalidVariable name)
  | .ok layer =>
    let path := environment.configurationFile
    if !File.isToml path then return .error (.unknownKind path)
    return (File.layer path (← files path)).map fun file => (layer.above file).settings

end Settings
end TokenAuthority
