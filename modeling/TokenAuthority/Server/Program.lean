/-
# The program

| step | what is written down | if it fails |
| --- | --- | --- |
| load the settings | | exit code 1 |
| set up the application | what was loaded | exit code 1 |
| listen at the port | the address | exit code 1 |
| serve until a signal comes | requests, the signal | |
| stop | the end | exit code 0 |
-/

import TokenAuthority.Server.Loading
import TokenAuthority.Settings.Load

namespace TokenAuthority

/-- What ends a server. -/
inductive Signal where
  | interrupt
  | terminate
deriving DecidableEq, Inhabited, Repr

/-- What is written down of a signal. -/
def Signal.message : Signal → String
  | interrupt => "Received Ctrl+C, shutting down"
  | terminate => "Received SIGTERM, shutting down"

/-- What a program needs to run. -/
structure Host (m : Type → Type) where
  «variables» : Settings.Variables
  files : Files m
  /-- Reaches remote reviewers. -/
  post : Webhook.Transport m
  /-- Starts to listen at a port, or tells why it cannot. -/
  listen : UInt16 → m (Except String Unit)
  /-- Answers requests with stores of a capacity until a signal comes. -/
  serve : Settings → App m → m Signal

namespace Host

variable {m : Type → Type} [Monad m] [Backend m]

/-- The address of a port at which requests from anywhere are taken. -/
def address (port : UInt16) : String :=
  "0.0.0.0:" ++ toString port

/-- Loads the settings and sets up the application; errors are written down. -/
def prepare (host : Host m) : m (Option (Settings × App m)) := do
  match ← Settings.load host.variables host.files with
  | .error e =>
    Backend.error ("Configuration error: " ++ e.message)
    return none
  | .ok settings =>
    match ← App.load settings host.files host.post with
    | .error e =>
      Backend.error ("Failed to initialize application state: " ++ e.message)
      return none
    | .ok app => return some (settings, app)

/-- Runs a server, and returns the exit code of the program. -/
def run (host : Host m) : m Nat := do
  match ← host.prepare with
  | none => return 1
  | some (settings, app) =>
    match ← host.listen settings.port with
    | .error detail =>
      Backend.error ("Failed to bind to " ++ address settings.port ++ ": " ++ detail)
      return 1
    | .ok () =>
      Backend.info
        ("Server running on " ++ address settings.port ++ ", press Ctrl+C to stop")
      let signal ← host.serve settings app
      Backend.info signal.message
      Backend.info "Server shutdown complete"
      return 0

end Host
end TokenAuthority
