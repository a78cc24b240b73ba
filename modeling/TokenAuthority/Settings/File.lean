/-
# Settings in the configuration file

The file is TOML, and its name says so. Settings lie in groups; what the file says besides them is
passed over.

| group is written as | meaning |
| --- | --- |
| table | settings by their keys, any of which may be missing |
| array | settings in their order, none of which may be missing; groups within it may |
| moment | no settings |

A backend is its word, or a table with that word as its key and nothing as its value.
-/

import TokenAuthority.Settings.Layer
import TokenAuthority.Toml.Document

namespace TokenAuthority
namespace Settings
namespace File

/-- The name of a file: the last part of its path. -/
def name? (path : String) : Option (List Char) :=
  match path.toList with
  | ['.'] => none
  | chars =>
    ((Text.fields '/' chars).filter fun part => part ≠ [] && part ≠ ['.']).getLast?.filter
      (· ≠ ['.', '.'])

/-- What follows the last dot of a file's name, unless nothing stands in front of it. -/
def extension? (path : String) : Option (List Char) := do
  let parts := Text.fields '.' (← name? path)
  if parts.dropLast = [] || parts.dropLast = [[]] then none else parts.getLast?

/-- Whether a file is TOML by its name. -/
def isToml (path : String) : Bool :=
  extension? path = some "toml".toList

/-- A group of settings. -/
inductive Group where
  | keyed (entries : Toml.Entries)
  | ordered (items : List Toml.Value)

namespace Group

/-- The group that a value writes. -/
def ofValue? : Toml.Value → Option Group
  | .table _ entries => some (.keyed entries)
  | .inline _ entries => some (.keyed entries)
  | .array items => some (.ordered items)
  | .tables items => some (.ordered (items.map (.table .header)))
  | .moment => some (.keyed [])
  | _ => none

/-- A setting by its key, and by its position in the order of its group. -/
def setting {α : Type} (g : Group) (position : Nat) (key : String)
    (read : Toml.Value → Option α) : Option (Option α) :=
  match g with
  | keyed entries =>
    match entries.lookup key with
    | none => some none
    | some value => (read value).map some
  | ordered items => do return some (← read (← items[position]?))

/-- A group within a group. -/
def group (g : Group) (position : Nat) (key : String) : Option Group :=
  let value := match g with
    | keyed entries => entries.lookup key
    | ordered items => items[position]?
  match value with
  | none => some (keyed [])
  | some value => ofValue? value

end Group

/-- A text. -/
def text? : Toml.Value → Option String
  | .string s => some s
  | _ => none

/-- A flag. -/
def flag? : Toml.Value → Option Bool
  | .boolean b => some b
  | _ => none

/-- A number below a bound. -/
def number? (bound : Nat) : Toml.Value → Option Nat
  | .integer n => if 0 ≤ n && n < bound then some n.toNat else none
  | _ => none

/-- A number of 16 bits. -/
def number16? (v : Toml.Value) : Option UInt16 :=
  (number? UInt16.size v).map UInt16.ofNat

/-- A number of 64 bits. -/
def number64? (v : Toml.Value) : Option UInt64 :=
  (number? UInt64.size v).map UInt64.ofNat

/-- Whether a value has nothing in it. -/
def isEmpty : Toml.Value → Bool
  | .array items => items.isEmpty
  | .inline _ entries => entries.isEmpty
  | .table _ entries => entries.isEmpty
  | .tables items => items.isEmpty
  | _ => false

/-- A backend. -/
def backend? : Toml.Value → Option ReviewBackend
  | .string word => ReviewBackend.ofWord? word
  | .inline _ [(word, value)] => if isEmpty value then ReviewBackend.ofWord? word else none
  | .table _ ((word, value) :: _) => if isEmpty value then ReviewBackend.ofWord? word else none
  | _ => none

/-- The settings in a file's text, if they are what they should be. -/
def layer? (text : String) : Option Layer := do
  let root := Group.keyed (← Toml.ofText? text)
  let tokenReview ← root.group 1 "token_review"
  let authentication ← root.group 2 "authentication"
  let webhook ← authentication.group 2 "webhook"
  let authorization ← root.group 3 "authorization"
  let admission ← root.group 4 "admission"
  let storage ← root.group 5 "storage"
  return {
    port := ← root.setting 0 "port" number16?
    audiences := ← tokenReview.setting 0 "audiences" text?
    reviewTimeout := ← tokenReview.setting 1 "timeout" number64?
    exposesErrors := ← tokenReview.setting 2 "expose_authenticator_errors" flag?
    backend := ← tokenReview.setting 3 "backend" backend?
    staticTokensFile := ← authentication.setting 0 "static_tokens_file" text?
    inactivityTimeout := ← authentication.setting 1 "access_token_inactivity_timeout" number64?
    webhookUrl := ← webhook.setting 0 "url" text?
    webhookTimeout := ← webhook.setting 1 "timeout" number64?
    policyFile := ← authorization.setting 0 "policy_file" text?
    plugins := ← admission.setting 0 "enable_plugins" text?
    configurationDirectory := ← admission.setting 1 "plugin_config_dir" text?
    capacity := ← storage.setting 0 "capacity" number64? }

end File
end Settings
end TokenAuthority
