/-
# What a request may do

Requests share two stores, a clock and a journal. All that a request does to them is a sequence of
`Call`s, each of which happens at once. `Backend m` says that programs of the monad `m` can make
calls, and that they can be abandoned without an answer.

| instance | meaning |
| --- | --- |
| `Backend.ofWorld` | a call acts on the world where it stands |
| `Task` | a program as data: its calls can be made at once, or one by one among those of others |

Both rest on `World.perform`.
-/

import TokenAuthority.Journal
import TokenAuthority.Store

namespace TokenAuthority

open Time (Instant)

/-- The collections of stored objects. -/
inductive Collection where
  | accessTokens
  | users
deriving DecidableEq, Repr

namespace Collection

/-- The objects of a collection. -/
abbrev Object : Collection → Type
  | accessTokens => Resource.AccessToken
  | users => Resource.User

instance stored : (c : Collection) → Stored c.Object
  | accessTokens => inferInstanceAs (Stored Resource.AccessToken)
  | users => inferInstanceAs (Stored Resource.User)

end Collection

/-- One step of a request. -/
inductive Call where
  /-- Reads the clock. -/
  | now
  /-- Writes into the journal. -/
  | record (entry : Entry)
  /-- An operation on a store. -/
  | store (collection : Collection) (call : Store.Call collection.Object)

/-- What a step answers. -/
abbrev Call.Answer : Call → Type
  | now => Instant
  | record _ => Unit
  | store _ c => c.Answer

/-- Monads whose programs can make calls. -/
class Backend (m : Type → Type) where
  perform : (c : Call) → m c.Answer
  /-- Ends the request without an answer. -/
  abandon {α : Type} : m α

/-- What requests share. -/
structure World where
  clock : Instant
  accessTokens : Store Resource.AccessToken
  users : Store Resource.User
  /-- What was written down, in order. -/
  journal : List Entry := []

namespace World

/-- The store of a collection. -/
def store (w : World) : (c : Collection) → Store c.Object
  | .accessTokens => w.accessTokens
  | .users => w.users

/-- The world with another store of a collection. -/
def withStore (w : World) : (c : Collection) → Store c.Object → World
  | .accessTokens, accessTokens => { w with accessTokens }
  | .users, users => { w with users }

/-- A call's answer, and the world after it. -/
def perform (w : World) : (c : Call) → c.Answer × World
  | .now => (w.clock, w)
  | .record entry => ((), { w with journal := w.journal ++ [entry] })
  | .store collection call =>
    let outcome := (w.store collection).perform call
    (outcome.1, w.withStore collection outcome.2)

end World

/-- Calls that act on a world where they stand. -/
@[reducible]
def Backend.ofWorld {m : Type → Type} [MonadStateOf World m] [Alternative m] :
    Backend m where
  perform c := modifyGet fun w => w.perform c
  abandon := failure

/-- A request as data: what it does next, for every answer. -/
inductive Task (α : Type) where
  | done (result : α)
  | abandoned
  | call (c : Call) (next : c.Answer → Task α)

namespace Task

/-- Goes on with the result. -/
def bind {α β : Type} : Task α → (α → Task β) → Task β
  | done a, f => f a
  | abandoned, _ => abandoned
  | call c next, f => call c fun answer => (next answer).bind f

instance : Monad Task where
  pure := done
  bind := bind

instance : Backend Task where
  perform c := call c done
  abandon := abandoned

/-- Makes the next call, if there is one. -/
def step {α : Type} : Task α → World → Task α × World
  | done a, w => (done a, w)
  | abandoned, w => (abandoned, w)
  | call c next, w => (next (w.perform c).1, (w.perform c).2)

/-- Makes all calls, one right after the other. An abandoned task leaves the world as it was when it
was abandoned. -/
def run {α : Type} : Task α → World → Option α × World
  | done a, w => (some a, w)
  | abandoned, w => (none, w)
  | call c next, w => (next (w.perform c).1).run (w.perform c).2

section Laws

variable {α β γ : Type}

@[simp] theorem pure_eq (a : α) : (pure a : Task α) = done a := rfl

/-- Programs that are put together are one task that goes on. -/
@[simp] theorem bind_eq (p : Task α) (f : α → Task β) : p >>= f = p.bind f := rfl

/-- What is done goes on with its result. -/
@[simp] theorem done_bind (a : α) (f : α → Task β) : (done a).bind f = f a := rfl

/-- What is abandoned does not go on. -/
@[simp] theorem abandoned_bind (f : α → Task β) : abandoned.bind f = abandoned := rfl

/-- What makes a call first makes it first whatever comes behind. -/
@[simp] theorem call_bind (c : Call) (next : c.Answer → Task α) (f : α → Task β) :
    (call c next).bind f = call c fun answer => (next answer).bind f := rfl

/-- To go on by doing nothing is not to go on. -/
@[simp] theorem bind_done (p : Task α) : p.bind done = p := by
  induction p with
  | done a => rfl
  | abandoned => rfl
  | call c next ih => exact congrArg (call c) (funext ih)

/-- It does not matter how three parts are put together. -/
@[simp] theorem bind_assoc (p : Task α) (f : α → Task β) (g : β → Task γ) :
    (p.bind f).bind g = p.bind fun a => (f a).bind g := by
  induction p with
  | done a => rfl
  | abandoned => rfl
  | call c next ih => exact congrArg (call c) (funext ih)

instance : LawfulMonad Task :=
  LawfulMonad.mk' Task (fun p => bind_done p) (fun _ _ => rfl) (fun p f g => bind_assoc p f g)

@[simp] theorem run_done (a : α) (w : World) : (done a).run w = (some a, w) := rfl

@[simp] theorem run_abandoned (w : World) : (abandoned : Task α).run w = (none, w) := rfl

/-- A call acts on the world, and what follows begins there. -/
@[simp] theorem run_call (c : Call) (next : c.Answer → Task α) (w : World) :
    (call c next).run w = (next (w.perform c).1).run (w.perform c).2 := rfl

/-- A task goes on in the world that the first part leaves, unless that is abandoned. -/
theorem run_bind (p : Task α) (f : α → Task β) (w : World) :
    (p.bind f).run w = match p.run w with
      | (some a, w') => (f a).run w'
      | (none, w') => (none, w') := by
  induction p generalizing w with
  | done a => rfl
  | abandoned => rfl
  | call c next ih => exact ih _ _

/-- A task goes on with what the first part ends with. -/
theorem run_bind_of_some {p : Task α} {f : α → Task β} {w w' : World} {a : α}
    (h : p.run w = (some a, w')) : (p.bind f).run w = (f a).run w' := by
  rw [run_bind, h]

end Laws

end Task

namespace Backend

variable {m : Type → Type} [Backend m]

/-- The time. -/
def now : m Instant :=
  perform .now

/-- Writes an entry into the journal. -/
def record (entry : Entry) : m Unit :=
  perform (.record entry)

/-- Writes a message of information. -/
def info (text : String) : m Unit :=
  record (.message .info text)

/-- Writes a warning. -/
def warn (text : String) : m Unit :=
  record (.message .warning text)

/-- Writes an error message. -/
def error (text : String) : m Unit :=
  record (.message .error text)

/-- Writes an audit event. -/
def audit (event : AuditEvent) : m Unit :=
  record (.audit event)

/-- The value of what may have none; without one the request is abandoned. -/
def orAbandon [Monad m] {α : Type} : Option α → m α
  | some a => pure a
  | none => abandon

/-- The object of a name. -/
def find (c : Collection) (name : String) : m (Option c.Object) :=
  perform (.store c (.find name))

/-- Puts an object in the place of the one with its name. -/
def replace (c : Collection) (object : c.Object) : m (Except StoreError c.Object) :=
  perform (.store c (.replace object))

/-- Takes an object out. -/
def remove (c : Collection) (name : String) : m (Except StoreError c.Object) :=
  perform (.store c (.remove name))

/-- What is wrong with a store, if anything. -/
def health (c : Collection) : m (Except String Unit) :=
  perform (.store c .health)

/-- Stores a new object with the time of storing filled in. Between the question whether there is
room and the insertion other requests may do what they like. -/
def create [Monad m] (c : Collection) (object : c.Object) : m (Except StoreError c.Object) := do
  if Stored.name object = "" then return .error .emptyName
  let object := Stored.stamp object (← now)
  match ← (perform (.store c (.checkRoom (Stored.name object))) : m (Except StoreError Unit)) with
  | .error e => return .error e
  | .ok () => perform (.store c (.insert object))

end Backend
end TokenAuthority
