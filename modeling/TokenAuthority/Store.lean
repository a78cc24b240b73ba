/-
# Stores

A store holds objects of one resource under their names, up to a capacity. It changes only by the
operations of `Store.Call`, each of which happens at once; whatever else a server does, it does
between them.

| operation | refused when |
| --- | --- |
| `find` | |
| `checkRoom` | the store is full and does not hold the name |
| `insert` | the name is taken |
| `replace` | the name is not taken |
| `remove` | the name is not taken |
| `health` | the store is out of order |

A refused operation leaves the store as it is. Objects are never dropped to make room.
-/

import TokenAuthority.Failure
import TokenAuthority.KeyedMap
import TokenAuthority.Resource.AccessToken
import TokenAuthority.Resource.User

namespace TokenAuthority

/-- Objects that a store can hold. -/
class Stored (α : Type) where
  /-- The name of the resource. -/
  resource : String
  metadata : α → Resource.Metadata
  withMetadata : α → Resource.Metadata → α
  metadata_withMetadata : ∀ a m, metadata (withMetadata a m) = m

instance : Stored Resource.AccessToken where
  resource := Resource.accessTokens
  metadata t := t.metadata
  withMetadata t metadata := { t with metadata }
  metadata_withMetadata _ _ := rfl

instance : Stored Resource.User where
  resource := Resource.users
  metadata u := u.metadata
  withMetadata u metadata := { u with metadata }
  metadata_withMetadata _ _ := rfl

namespace Stored

variable {α : Type} [Stored α]

/-- The name under which an object is stored. -/
def name (a : α) : String :=
  (metadata a).name

/-- The object with the time of storing filled in, unless it carries one. -/
def stamp (a : α) (now : Time.Instant) : α :=
  withMetadata a ((metadata a).stamp now)

/-- Filling in the time of storing leaves the name. -/
theorem name_stamp (a : α) (now : Time.Instant) : name (stamp a now) = name a := by
  unfold name stamp
  rw [metadata_withMetadata]
  rfl

/-- The objects of an empty store are all under their names. -/
theorem name_of_mem_empty : ∀ e ∈ (KeyedMap.empty : KeyedMap α).entries, name e.2 = e.1 :=
  fun _ h => absurd h List.not_mem_nil

end Stored

/-- Why a store refuses an operation. -/
inductive StoreError where
  | notFound (resource name : String)
  | alreadyExists (resource name : String)
  | emptyName
  | capacityExceeded (resource : String) (capacity : Nat)
deriving DecidableEq, Repr

namespace StoreError

/-- The message of an error. -/
def message : StoreError → String
  | notFound resource name => resource ++ " \"" ++ name ++ "\" not found"
  | alreadyExists resource name => resource ++ " \"" ++ name ++ "\" already exists"
  | emptyName => "object name must not be empty"
  | capacityExceeded resource capacity =>
    resource ++ " store is full (" ++ toString capacity ++ " objects)"

/-- What a caller is told. -/
def toFailure : StoreError → Failure
  | notFound resource name => .notFound resource name
  | alreadyExists resource name => .alreadyExists resource name
  | emptyName => .badRequest emptyName.message
  | capacityExceeded resource capacity => .internal (capacityExceeded resource capacity).message

end StoreError

/-- A store of objects. -/
structure Store (α : Type) [Stored α] where
  /-- How many objects there may be. -/
  capacity : Nat
  /-- The objects, under their names. -/
  objects : KeyedMap α := .empty
  named : ∀ e ∈ objects.entries, Stored.name e.2 = e.1 := by exact Stored.name_of_mem_empty
  /-- What is wrong with the store, if anything. -/
  outage : Option String := none

namespace Store

/-- The operations of a store. -/
inductive Call (α : Type) where
  /-- Looks an object up. -/
  | find (name : String)
  /-- Asks whether an object of this name could be put in. -/
  | checkRoom (name : String)
  /-- Puts an object in. -/
  | insert (object : α)
  /-- Puts an object in the place of the one with its name. -/
  | replace (object : α)
  /-- Takes an object out. -/
  | remove (name : String)
  /-- Asks whether the store is in order. -/
  | health

/-- What an operation answers. -/
abbrev Call.Answer {α : Type} : Call α → Type
  | find _ => Option α
  | checkRoom _ => Except StoreError Unit
  | insert _ => Except StoreError α
  | replace _ => Except StoreError α
  | remove _ => Except StoreError α
  | health => Except String Unit

variable {α : Type} [Stored α]

/-- The object of a name. -/
def find? (s : Store α) (name : String) : Option α :=
  s.objects.find? name

/-- How many objects there are. -/
def size (s : Store α) : Nat :=
  s.objects.size

/-- The store with an object under its name. -/
def put (s : Store α) (object : α) : Store α :=
  { s with
    objects := s.objects.insert (Stored.name object) object
    named := fun e h => by
      rcases KeyedMap.mem_insertEntry h with rfl | h
      · rfl
      · exact s.named e h }

/-- The store without a name. -/
def drop (s : Store α) (name : String) : Store α :=
  { s with
    objects := s.objects.erase name
    named := fun e h => s.named e (List.mem_filter.1 h).1 }

/-- The object that was put in is found, and all others are found as before. -/
@[simp] theorem find?_put (s : Store α) (object : α) (name : String) :
    (s.put object).find? name = if name = Stored.name object then some object else s.find? name :=
  KeyedMap.find?_insert s.objects (Stored.name object) name object

/-- An object that was taken out is not found, and all others are found as before. -/
@[simp] theorem find?_drop (s : Store α) (dropped name : String) :
    (s.drop dropped).find? name = if name = dropped then none else s.find? name :=
  KeyedMap.find?_erase s.objects dropped name

/-- An object is found under its own name. -/
theorem name_of_find? {s : Store α} {name : String} {object : α}
    (h : s.find? name = some object) : Stored.name object = name :=
  s.named _ (KeyedMap.mem_of_find? h)

/-- The error for a name that is not taken. -/
def missing (α : Type) [Stored α] (name : String) : StoreError :=
  .notFound (Stored.resource α) name

/-- An operation's answer, and the store after it. -/
def perform (s : Store α) : (c : Call α) → c.Answer × Store α
  | .find name => (s.find? name, s)
  | .checkRoom name =>
    if s.capacity ≤ s.size && (s.find? name).isNone then
      (.error (.capacityExceeded (Stored.resource α) s.capacity), s)
    else (.ok (), s)
  | .insert object =>
    match s.find? (Stored.name object) with
    | some _ => (.error (.alreadyExists (Stored.resource α) (Stored.name object)), s)
    | none => (.ok object, s.put object)
  | .replace object =>
    match s.find? (Stored.name object) with
    | some _ => (.ok object, s.put object)
    | none => (.error (missing α (Stored.name object)), s)
  | .remove name =>
    match s.find? name with
    | some object => (.ok object, s.drop name)
    | none => (.error (missing α name), s)
  | .health =>
    match s.outage with
    | some text => (.error text, s)
    | none => (.ok (), s)

/-- Looking something up changes nothing. -/
@[simp] theorem perform_find (s : Store α) (name : String) :
    s.perform (.find name) = (s.find? name, s) := rfl

/-- Asking for room changes nothing. -/
@[simp] theorem perform_checkRoom_store (s : Store α) (name : String) :
    (s.perform (.checkRoom name)).2 = s := by
  dsimp only [perform]; split <;> rfl

/-- Asking for the health of a store changes nothing. -/
@[simp] theorem perform_health_store (s : Store α) : (s.perform .health).2 = s := by
  dsimp only [perform]; split <;> rfl

/-- Nothing is put in under a name that is taken. -/
theorem perform_insert_of_taken {s : Store α} {object old : α}
    (h : s.find? (Stored.name object) = some old) :
    s.perform (.insert object) =
      (.error (.alreadyExists (Stored.resource α) (Stored.name object)), s) := by
  dsimp only [perform]; rw [h]

/-- An object is put in under a name that is free. -/
theorem perform_insert_of_free {s : Store α} {object : α}
    (h : s.find? (Stored.name object) = none) :
    s.perform (.insert object) = (.ok object, s.put object) := by
  dsimp only [perform]; rw [h]

/-- An object takes the place of the one with its name. -/
theorem perform_replace_of_found {s : Store α} {object old : α}
    (h : s.find? (Stored.name object) = some old) :
    s.perform (.replace object) = (.ok object, s.put object) := by
  dsimp only [perform]; rw [h]

/-- Nothing is replaced if there is no object of the name. -/
theorem perform_replace_of_missing {s : Store α} {object : α}
    (h : s.find? (Stored.name object) = none) :
    s.perform (.replace object) = (.error (missing α (Stored.name object)), s) := by
  dsimp only [perform]; rw [h]

/-- An object is taken out, and the answer tells which. -/
theorem perform_remove_of_found {s : Store α} {name : String} {object : α}
    (h : s.find? name = some object) : s.perform (.remove name) = (.ok object, s.drop name) := by
  dsimp only [perform]; rw [h]

/-- Nothing is taken out if there is no object of the name. -/
theorem perform_remove_of_missing {s : Store α} {name : String} (h : s.find? name = none) :
    s.perform (.remove name) = (.error (missing α name), s) := by
  dsimp only [perform]; rw [h]

end Store
end TokenAuthority
