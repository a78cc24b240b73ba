/-
# The registry of plugins

Plugins are registered under names. A name keeps the place of its first registration and the
factory of its last. A chain holds the enabled plugins in the order of the registry, each built
once from its configuration file, if it has one. One that has a configuration file which cannot be
opened is not built at all.

The factories and the order are kept apart. A name with a place but no factory could not be built at
all; registration leaves none behind.
-/

import TokenAuthority.Admission.AuditLogouts

namespace TokenAuthority
namespace Admission

/-- Builds a plugin from the contents of its configuration file. -/
abbrev Factory (m : Type → Type) := Option String → m (Except Error (Plugin m))

/-- The plugins that can be enabled. -/
structure Registry (m : Type → Type) where
  /-- The factory that counts for each name. -/
  factories : KeyedMap (Factory m) := .empty
  /-- The names, in the order of first registration. -/
  order : List String := []

namespace Registry

variable {m : Type → Type}

/-- Whether there is a factory under a name. -/
def knows (r : Registry m) (name : String) : Bool :=
  (r.factories.find? name).isSome

/-- The registry with a factory under a name. A name that is new comes last. -/
def register (r : Registry m) (name : String) (factory : Factory m) : Registry m where
  factories := r.factories.insert name factory
  order := if r.knows name then r.order else r.order ++ [name]

/-- The name of a plugin's configuration file. -/
def fileName (plugin : String) : String :=
  String.ofList (plugin.toList.map fun c => if c = '/' then '_' else c)

variable [Monad m] [Backend m]

/-- The registry with the plugins of this library. -/
def builtin : Registry m :=
  ({} : Registry m).register AuditLogouts.name fun _ => return .ok AuditLogouts.plugin

/-- Registers a factory, with a warning if it takes the place of another. -/
def enroll (r : Registry m) (name : String) (factory : Factory m) : m (Registry m) := do
  if r.knows name then
    Backend.warn ("Admission plugin " ++ name ++ " registered twice, replacing")
  return r.register name factory

/-- Builds the plugins of some names in order, up to the first that fails. -/
def build (r : Registry m) (configuration : String → ExceptT String m (Option String)) :
    List String → m (Except Error (List (Plugin m)))
  | [] => return .ok []
  | name :: rest => do
    let factory ← Backend.orAbandon (r.factories.find? name)
    match ← (configuration (fileName name)).run with
    | .error reason => return .error (.configuration name reason)
    | .ok text =>
      match ← factory text with
      | .error e => return .error e
      | .ok plugin => return (← r.build configuration rest).map (plugin :: ·)

/-- The chain of the enabled plugins. `configuration` tells the contents of a configuration file if
there is one, or why it cannot be opened. -/
def chain (r : Registry m) (enabled : List String)
    (configuration : String → ExceptT String m (Option String)) :
    m (Except Error (List (Plugin m))) :=
  match enabled.find? fun name => !r.knows name with
  | some unknown => return .error (.unknownPlugin unknown)
  | none => r.build configuration (r.order.filter (enabled.contains ·))

end Registry
end Admission
end TokenAuthority
