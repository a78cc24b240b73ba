/-
# What tasks leave alone

`Task.Only p` says of a program that it makes no calls but those that satisfy `p`, whatever it is
answered. Then all that such calls keep is kept by the program, whichever way it goes
(`Task.Only.run`).

| calls | what they do |
| --- | --- |
| `Call.isQuiet` | ask, or write down a message |
| `Call.usesAtMost` | these, or note a use in a stored token |
| `Call.keepsNames` | neither create nor delete an object |

A task that makes quiet calls only, and comes to an end, is `Task.IsQuiet`. An authenticator of
configured and stored tokens notes uses at most, and only in the place of a token with the same
name, so it keeps names as well.
-/

import TokenAuthority.Authentication.AccessTokens
import TokenAuthority.Authentication.Combine
import TokenAuthority.Authentication.Static

namespace TokenAuthority

namespace Store

variable {α : Type} [Stored α]

/-- Whether an operation neither creates nor deletes an object. -/
def Call.keepsNames : Call α → Bool
  | .insert _ | .remove _ => false
  | _ => true

/-- Operations that keep names leave a name taken or free. -/
theorem isSome_find?_perform (s : Store α) {c : Call α} (keeps : c.keepsNames = true)
    (name : String) : ((s.perform c).2.find? name).isSome = (s.find? name).isSome := by
  cases c with
  | insert o => simp [Call.keepsNames] at keeps
  | remove n => simp [Call.keepsNames] at keeps
  | find n => rfl
  | checkRoom n => rw [perform_checkRoom_store]
  | health => rw [perform_health_store]
  | replace o =>
    cases found : s.find? (Stored.name o) with
    | none => rw [perform_replace_of_missing found]
    | some old =>
      rw [perform_replace_of_found found, find?_put]
      split
      · rename_i same
        rw [same, found, Option.isSome_some, Option.isSome_some]
      · rfl

/-- What is found after an operation was there before, or has been put there by it. -/
theorem of_find?_perform {s : Store α} {op : Call α} {name : String} {object : α}
    (found : (s.perform op).2.find? name = some object) :
    s.find? name = some object ∨
      (op = .insert object ∧ s.find? (Stored.name object) = none) ∨
        op = .replace object ∧ ∃ old, s.find? (Stored.name object) = some old := by
  cases op with
  | find n => exact .inl found
  | checkRoom n => exact .inl (perform_checkRoom_store s n ▸ found)
  | health => exact .inl (perform_health_store s ▸ found)
  | remove n =>
    cases present : s.find? n with
    | none =>
      rw [perform_remove_of_missing present] at found
      exact .inl found
    | some old =>
      rw [perform_remove_of_found present, find?_drop] at found
      split at found
      · simp at found
      · exact .inl found
  | insert o =>
    cases present : s.find? (Stored.name o) with
    | some old =>
      rw [perform_insert_of_taken present] at found
      exact .inl found
    | none =>
      rw [perform_insert_of_free present, find?_put] at found
      split at found
      · obtain rfl := Option.some.inj found
        exact .inr (.inl ⟨rfl, present⟩)
      · exact .inl found
  | replace o =>
    cases present : s.find? (Stored.name o) with
    | none =>
      rw [perform_replace_of_missing present] at found
      exact .inl found
    | some old =>
      rw [perform_replace_of_found present, find?_put] at found
      split at found
      · obtain rfl := Option.some.inj found
        exact .inr (.inr ⟨rfl, old, present⟩)
      · exact .inl found

end Store

namespace World

/-- The store that was put into a world is there. -/
@[simp] theorem store_withStore (w : World) (c : Collection) (s : Store c.Object) :
    (w.withStore c s).store c = s := by
  cases c <;> rfl

/-- The other store is there as before. -/
theorem store_withStore_of_ne (w : World) {c d : Collection} (s : Store c.Object) (h : d ≠ c) :
    (w.withStore c s).store d = w.store d := by
  cases c <;> cases d <;> first | rfl | exact absurd rfl h

/-- A call does nothing to a store but an operation on it. -/
theorem store_perform (w : World) (c : Collection) (call : Call) :
    (w.perform call).2.store c = w.store c ∨
      ∃ op, call = .store c op ∧ (w.perform call).2.store c = ((w.store c).perform op).2 := by
  cases call with
  | now => exact .inl rfl
  | record entry => exact .inl (by cases c <;> rfl)
  | store d op =>
    by_cases h : c = d
    · subst h
      exact .inr ⟨op, rfl, store_withStore ..⟩
    · exact .inl (store_withStore_of_ne w _ h)

/-- Calls do not change the clock. -/
theorem clock_perform (w : World) (c : Call) : (w.perform c).2.clock = w.clock := by
  cases c with
  | now => rfl
  | record entry => rfl
  | store c op => cases c <;> rfl

/-- Whether the stores of two worlds hold objects under the same names. -/
def SameNames (w w' : World) : Prop :=
  ∀ (c : Collection) (name : String),
    ((w'.store c).find? name).isSome = ((w.store c).find? name).isSome

/-- A world has the same names as itself. -/
theorem SameNames.refl (w : World) : w.SameNames w := fun _ _ => rfl

/-- Worlds with the same names as a third one have the same names. -/
theorem SameNames.trans {w₁ w₂ w₃ : World} (h : w₁.SameNames w₂) (h' : w₂.SameNames w₃) :
    w₁.SameNames w₃ :=
  fun c name => (h' c name).trans (h c name)

end World

/-- Whether a call neither creates nor deletes an object. -/
def Call.keepsNames : Call → Bool
  | .store _ call => call.keepsNames
  | _ => true

/-- Calls that keep names leave a world with the same names. -/
theorem World.sameNames_perform (w : World) {call : Call} (keeps : call.keepsNames = true) :
    w.SameNames (w.perform call).2 := by
  intro c name
  obtain same | ⟨op, rfl, store⟩ := w.store_perform c call
  · rw [same]
  · rw [store, Store.isSome_find?_perform _ keeps]

/-! ### Calls that change nothing -/

/-- Whether an operation only asks. -/
def Store.Call.isQuiet {α : Type} : Store.Call α → Bool
  | .insert _ | .replace _ | .remove _ => false
  | _ => true

/-- Whether a call leaves the stores as they are, whatever it is answered, and adds no event to the
audit. -/
def Call.isQuiet : Call → Bool
  | .store _ call => call.isQuiet
  | .record (.audit _) => false
  | _ => true

/-- Whether a call is quiet, or replaces an access token. -/
def Call.usesAtMost : Call → Bool
  | .store .accessTokens (.replace _) => true
  | call => call.isQuiet

/-- A quiet call uses a token at most. -/
theorem Call.usesAtMost_of_isQuiet {call : Call} (quiet : call.isQuiet = true) :
    call.usesAtMost = true := by
  unfold usesAtMost
  split
  · rfl
  · exact quiet

/-- A use keeps all names. -/
theorem Call.keepsNames_of_usesAtMost {call : Call} (uses : call.usesAtMost = true) :
    call.keepsNames = true := by
  cases call with
  | now => rfl
  | record entry => rfl
  | store c op => cases c <;> cases op <;> first | rfl | cases uses

/-- A quiet operation leaves the store. -/
theorem Store.perform_of_isQuiet {α : Type} [Stored α] (s : Store α) {c : Store.Call α}
    (quiet : c.isQuiet = true) : (s.perform c).2 = s := by
  cases c with
  | find name => rfl
  | checkRoom name => exact perform_checkRoom_store s name
  | health => exact perform_health_store s
  | insert object => cases quiet
  | replace object => cases quiet
  | remove name => cases quiet

namespace World

/-- The stores of two worlds are equal. -/
def SameStores (w w' : World) : Prop :=
  ∀ c : Collection, w'.store c = w.store c

variable {w₁ w₂ w₃ : World}

/-- A world has the same stores as itself. -/
theorem SameStores.refl (w : World) : w.SameStores w := fun _ => rfl

/-- Worlds with the same stores as a third one have the same stores. -/
theorem SameStores.trans (h : w₁.SameStores w₂) (h' : w₂.SameStores w₃) : w₁.SameStores w₃ :=
  fun c => (h' c).trans (h c)

/-- The same objects are found in the same stores. -/
theorem SameStores.find? (h : w₁.SameStores w₂) (c : Collection) (name : String) :
    (w₂.store c).find? name = (w₁.store c).find? name :=
  congrArg (fun s : Store c.Object => s.find? name) (h c)

/-- A quiet call leaves the stores. -/
theorem sameStores_perform (w : World) {call : Call} (quiet : call.isQuiet = true) :
    w.SameStores (w.perform call).2 := by
  intro c
  obtain same | ⟨op, rfl, store⟩ := w.store_perform c call
  · exact same
  · rw [store, Store.perform_of_isQuiet _ quiet]

/-- The audit: the events in the journal. -/
def audits (w : World) : List AuditEvent :=
  w.journal.filterMap Entry.audit?

/-- What is in the stores is not in the audit. -/
@[simp] theorem audits_withStore (w : World) (c : Collection) (s : Store c.Object) :
    (w.withStore c s).audits = w.audits := by
  cases c <;> rfl

/-- An audit event is added to the audit. -/
theorem audits_perform_audit (w : World) (event : AuditEvent) :
    (w.perform (.record (.audit event))).2.audits = w.audits ++ [event] :=
  List.filterMap_append

/-- A call that uses a token at most adds nothing to the audit. -/
theorem audits_perform (w : World) {call : Call} (uses : call.usesAtMost = true) :
    (w.perform call).2.audits = w.audits := by
  cases call with
  | now => rfl
  | store c op => exact w.audits_withStore c _
  | record entry =>
    cases entry with
    | audit event => cases uses
    | message severity text => exact List.filterMap_append.trans (List.append_nil _)

end World

namespace Task

variable {α β : Type} {p : Call → Prop}

/-- Whether a task only asks, whatever it is answered, and comes to an end. -/
def IsQuiet : Task α → Prop
  | done _ => True
  | abandoned => False
  | call c next => c.isQuiet = true ∧ ∀ answer, (next answer).IsQuiet

/-- A task that is quiet in both parts is quiet. -/
theorem IsQuiet.bind {t : Task α} {f : α → Task β} (ht : t.IsQuiet) (hf : ∀ a, (f a).IsQuiet) :
    (t.bind f).IsQuiet := by
  induction t with
  | done a => exact hf a
  | abandoned => exact ht.elim
  | call c next ih => exact ⟨ht.1, fun answer => ih answer (ht.2 answer)⟩

/-- Whether all calls that a task can make, whatever it is answered, satisfy a condition. -/
def Only (p : Call → Prop) : Task α → Prop
  | done _ => True
  | abandoned => True
  | call c next => p c ∧ ∀ answer, (next answer).Only p

/-- A task that makes only such calls in both parts makes only such calls. -/
theorem Only.bind {t : Task α} {f : α → Task β} (ht : t.Only p) (hf : ∀ a, (f a).Only p) :
    (t.bind f).Only p := by
  induction t with
  | done a => exact hf a
  | abandoned => trivial
  | call c next ih => exact ⟨ht.1, fun answer => ih answer (ht.2 answer)⟩

/-- A task that makes only such calls makes only calls of a weaker kind. -/
theorem Only.mono {q : Call → Prop} {t : Task α} (ht : t.Only p) (weaker : ∀ c, p c → q c) :
    t.Only q := by
  induction t with
  | done a => trivial
  | abandoned => trivial
  | call c next ih => exact ⟨weaker c ht.1, fun answer => ih answer (ht.2 answer)⟩

/-- A quiet task makes quiet calls only. -/
theorem IsQuiet.only {t : Task α} (quiet : t.IsQuiet) : t.Only (·.isQuiet = true) := by
  induction t with
  | done a => trivial
  | abandoned => trivial
  | call c next ih => exact ⟨quiet.1, fun answer => ih answer (quiet.2 answer)⟩

/-- A quiet task uses tokens at most. -/
theorem IsQuiet.only_uses {t : Task α} (quiet : t.IsQuiet) : t.Only (·.usesAtMost = true) :=
  quiet.only.mono fun _ => Call.usesAtMost_of_isQuiet

/-- **What all calls of a task keep, the task keeps.** -/
theorem Only.run {t : Task α} (ht : t.Only p) {R : World → World → Prop} (refl : ∀ w, R w w)
    (trans : ∀ {w₁ w₂ w₃}, R w₁ w₂ → R w₂ w₃ → R w₁ w₃)
    (step : ∀ w c, p c → R w (w.perform c).2) (w : World) : R w (t.run w).2 := by
  induction t generalizing w with
  | done a => exact refl w
  | abandoned => exact refl w
  | call c next ih => exact trans (step w c ht.1) (ih _ (ht.2 _) _)

/-- A task of calls that keep names keeps them to its end. -/
theorem sameNames_run {t : Task α} (ht : t.Only (·.keepsNames = true)) (w : World) :
    w.SameNames (t.run w).2 :=
  ht.run World.SameNames.refl World.SameNames.trans (fun w _ h => w.sameNames_perform h) w

/-- To abandon a request takes no call. -/
theorem only_orAbandon (o : Option α) : (Backend.orAbandon o : Task α).Only p := by
  cases o <;> trivial

end Task

/-! ### Authenticators -/

namespace TokenAuthenticator

/-- The note of a use is a use. -/
theorem only_uses_noteUse (token : Resource.AccessToken) (timeout : UInt64) :
    (noteUse token timeout : Task _).Only (·.usesAtMost = true) := by
  refine ⟨rfl, fun now => ⟨rfl, fun answer => ?_⟩⟩
  cases answer <;> trivial

/-- The check of the user of a token uses tokens at most. -/
theorem only_uses_checkUser (token : Resource.AccessToken) (timeout : Option UInt64) :
    (checkUser token timeout : Task Verdict).Only (·.usesAtMost = true) := by
  refine ⟨rfl, fun user => ?_⟩
  cases user with
  | none => trivial
  | some user =>
    dsimp only [Task.done_bind]
    split
    · exact ⟨rfl, fun _ => trivial⟩
    · cases timeout with
      | none => trivial
      | some timeout =>
        refine (only_uses_noteUse token timeout).bind fun noted => ?_
        cases noted <;> trivial

/-- The authenticator of stored tokens uses tokens at most. -/
theorem only_uses_accessTokens (timeout : Option UInt64) (token : String)
    (audiences : Option Audiences) :
    (accessTokens timeout token audiences : Task Verdict).Only (·.usesAtMost = true) := by
  refine ⟨rfl, fun stored => ?_⟩
  cases stored with
  | none => trivial
  | some stored =>
    refine ⟨rfl, fun now => (Task.only_orAbandon _).bind fun expired => ?_⟩
    split
    · trivial
    · refine (Task.only_orAbandon _).bind fun timedOut => ?_
      split
      · trivial
      · exact only_uses_checkUser stored timeout

/-- Members that are asked one after the other make the calls of the members. -/
theorem only_firstAccepted {p : Call → Prop} {token : String} {audiences : Option Audiences}
    {members : List (TokenAuthenticator Task)} (h : ∀ a ∈ members, (a token audiences).Only p)
    (errors : List AuthenticationError) :
    (firstAccepted token audiences members errors).Only p := by
  induction members generalizing errors with
  | nil => unfold firstAccepted; split <;> trivial
  | cons member rest ih =>
    refine (h member List.mem_cons_self).bind fun verdict => ?_
    have others := ih fun a ha => h a (List.mem_cons_of_mem _ ha)
    rcases verdict with e | _ | accepted
    · exact others _
    · exact others _
    · trivial

/-- A union makes the calls of its members. -/
theorem only_union {p : Call → Prop} {token : String} {audiences : Option Audiences}
    {members : List (TokenAuthenticator Task)} (h : ∀ a ∈ members, (a token audiences).Only p) :
    (union members token audiences).Only p :=
  only_firstAccepted h []

end TokenAuthenticator

/-- A reader of header fields makes the calls of the authenticator behind it. -/
theorem RequestAuthenticator.only_bearer {p : Call → Prop} {delegate : TokenAuthenticator Task}
    (h : ∀ token audiences, (delegate token audiences).Only p) (credentials : Credentials) :
    (bearer delegate credentials).Only p := by
  unfold bearer
  split
  · trivial
  · trivial
  · exact h _ _

end TokenAuthority
