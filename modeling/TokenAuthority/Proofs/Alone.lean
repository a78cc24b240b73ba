/-
# A request on its own

`Task.Ends` says how a task goes while no other request is worked on: what it hears, what it comes
to, and the world then. Only the clock moves by itself. A task that is made of two goes as the one
and then as the other (`Task.Ends.of_bind`).

What such a task leaves alone is stated by how far two worlds are the same:

| the worlds are the same | which means |
| --- | --- |
| `SameStores` | all stores are equal |
| `Intact` | so are all stores, and the audit |
| `SameUpTo noted` | so are all objects, but a use may be noted in the tokens of some names |

An authentication keeps the worlds the same up to the token that it is about, and only if it accepts
and there is an inactivity timeout may a use be noted in that (`Task.NotesUse`).
-/

import TokenAuthority.Proofs.Conduct
import TokenAuthority.Proofs.Frame

namespace TokenAuthority

open Resource (AccessToken)
open Time (Instant)

namespace Task

/-- How a task goes that is worked on alone: what it hears, what it comes to, which is `none` if it
is abandoned, and the world then. The clock may be set at any moment. -/
inductive Ends {α : Type} : Task α → World → List Exchange → Option α → World → Prop where
  | done (a : α) (w : World) : Ends (done a) w [] (some a) w
  | abandoned (w : World) : Ends abandoned w [] none w
  | tick {t : Task α} {w w' : World} {heard : List Exchange} {outcome : Option α}
      (clock : Instant) (ends : Ends t { w with clock } heard outcome w') :
      Ends t w heard outcome w'
  | call {c : Call} {next : c.Answer → Task α} {w w' : World} {heard : List Exchange}
      {outcome : Option α} (ends : Ends (next (w.perform c).1) (w.perform c).2 heard outcome w') :
      Ends (call c next) w (⟨c, (w.perform c).1⟩ :: heard) outcome w'

section Ends

variable {α β : Type} {w w' : World} {heard : List Exchange}

/-- What is done has ended as it is, and only time has passed. -/
theorem Ends.of_done {a : α} {outcome : Option α} (h : (Task.done a).Ends w heard outcome w') :
    heard = [] ∧ outcome = some a ∧ ∃ clock, w' = { w with clock } := by
  generalize task : Task.done a = t at h
  induction h with
  | done b w =>
    obtain rfl := Task.done.inj task
    exact ⟨rfl, rfl, w.clock, rfl⟩
  | abandoned w => cases task
  | tick clock ends ih => exact ih task
  | call ends ih => cases task

/-- What is abandoned has ended without a result, and only time has passed. -/
theorem Ends.of_abandoned {outcome : Option α} (h : Task.abandoned.Ends w heard outcome w') :
    heard = [] ∧ outcome = none ∧ ∃ clock, w' = { w with clock } := by
  generalize task : Task.abandoned = t at h
  induction h with
  | done b w => cases task
  | abandoned w => exact ⟨rfl, rfl, w.clock, rfl⟩
  | tick clock ends ih => exact ih task
  | call ends ih => cases task

/-- A task that is about to make a call makes it, at some time. -/
theorem Ends.of_call {c : Call} {next : c.Answer → Task α} {outcome : Option α}
    (h : (Task.call c next).Ends w heard outcome w') :
    ∃ clock later, let made := World.perform { w with clock } c
      heard = ⟨c, made.1⟩ :: later ∧ (next made.1).Ends made.2 later outcome w' := by
  generalize task : Task.call c next = t at h
  induction h with
  | done b w => cases task
  | abandoned w => cases task
  | tick clock ends ih => exact ih task
  | @call c' next' w w' later outcome ends ih =>
    cases task
    exact ⟨w.clock, later, rfl, ends⟩

/-- **A task goes on with the result of its first part**, unless that is abandoned. -/
theorem Ends.of_bind {t : Task α} {f : α → Task β} {outcome : Option β}
    (h : (t.bind f).Ends w heard outcome w') :
    (∃ a before after w₁, heard = before ++ after ∧ t.Ends w before (some a) w₁ ∧
      (f a).Ends w₁ after outcome w') ∨ outcome = none ∧ t.Ends w heard none w' := by
  -- the calls of the first part come first, so the induction is on that
  induction t generalizing w heard with
  | done a => exact .inl ⟨a, [], heard, w, rfl, .done a w, h⟩
  | abandoned =>
    obtain ⟨rfl, rfl, clock, rfl⟩ := h.of_abandoned
    exact .inr ⟨rfl, .tick clock (.abandoned _)⟩
  | call c next ih =>
    obtain ⟨clock, later, rfl, ends⟩ := h.of_call
    obtain ⟨a, before, after, w₁, rfl, first, second⟩ | ⟨rfl, first⟩ := ih _ ends
    · exact .inl ⟨a, _ :: before, after, w₁, rfl, .tick clock (.call first), second⟩
    · exact .inr ⟨rfl, .tick clock (.call first)⟩

/-- The clock may be set once more in the end. -/
theorem Ends.ticked {t : Task α} {outcome : Option α} (h : t.Ends w heard outcome w')
    (clock : Instant) : t.Ends w heard outcome { w' with clock } := by
  induction h with
  | done a w => exact .tick clock (.done a _)
  | abandoned w => exact .tick clock (.abandoned _)
  | tick clock' ends ih => exact .tick clock' ih
  | call ends ih => exact .call ih

/-- What is made of the result of a task takes no calls. -/
theorem Ends.of_map {t : Task α} {f : α → β} {outcome : Option β}
    (h : (f <$> t).Ends w heard outcome w') :
    ∃ result, outcome = result.map f ∧ t.Ends w heard result w' := by
  obtain ⟨a, before, after, w₁, rfl, first, second⟩ | ⟨rfl, first⟩ := Ends.of_bind h
  · obtain ⟨rfl, rfl, clock, rfl⟩ := second.of_done
    exact ⟨some a, rfl, by rw [List.append_nil]; exact first.ticked clock⟩
  · exact ⟨none, rfl, first⟩

/-- What a task hears leads to what it comes to. -/
theorem Ends.after {t : Task α} {a : α} (h : t.Ends w heard (some a) w') :
    t.After heard (Task.done a) := by
  generalize result : some a = outcome at h
  induction h with
  | done b w =>
    obtain rfl := Option.some.inj result
    exact .nothing _
  | abandoned w => cases result
  | tick clock ends ih => exact ih result
  | call ends ih => exact .heard (ih result)

/-- A task that ends without a result was abandoned. -/
theorem Ends.after_of_none {t : Task α} (h : t.Ends w heard none w') :
    t.After heard Task.abandoned := by
  generalize result : none = outcome at h
  induction h with
  | done b w => cases result
  | abandoned w => exact .nothing _
  | tick clock ends ih => exact ih result
  | call ends ih => exact .heard (ih result)

/-- A task that only asks comes to a result. -/
theorem Ends.exists_of_isQuiet {t : Task α} {outcome : Option α} (h : t.Ends w heard outcome w')
    (quiet : t.IsQuiet) : ∃ a, outcome = some a := by
  induction h with
  | done a w => exact ⟨a, rfl⟩
  | abandoned w => exact quiet.elim
  | tick clock ends ih => exact ih quiet
  | call ends ih => exact ih (quiet.2 _)

/-- Every task ends, whatever the world; so it does if the clock stands still. -/
theorem exists_ends_run (t : Task α) (w : World) :
    ∃ heard, t.Ends w heard (t.run w).1 (t.run w).2 := by
  induction t generalizing w with
  | done a => exact ⟨[], .done a w⟩
  | abandoned => exact ⟨[], .abandoned w⟩
  | call c next ih =>
    obtain ⟨heard, ends⟩ := ih (w.perform c).1 (w.perform c).2
    exact ⟨_, .call ends⟩

/-- A task that is run at once ends, with some dialogue. -/
theorem exists_ends_of_run {t : Task α} {w : World} {ended : Option α × World}
    (ran : t.run w = ended) : ∃ heard, t.Ends w heard ended.1 ended.2 :=
  ran ▸ exists_ends_run t w

end Ends

end Task

/-- **What goes so alone is a run**, of the request by itself, while the others wait. -/
theorem Pool.exists_run_of_ends {ι α β : Type} [DecidableEq ι] {s : Pool ι α} {i : ι} {t : Task β}
    {k : β → Task α} {a : β} {w' : World} {heard : List Exchange} (begun : s.tasks i = t.bind k)
    (ends : t.Ends s.world heard (some a) w') :
    ∃ es s', Run s es s' ∧ dialogue i es = heard ∧ s'.world = w' ∧ s'.tasks i = k a ∧
      ∀ j, j ≠ i → s'.tasks j = s.tasks j ∧ dialogue j es = [] := by
  generalize world : s.world = w at ends
  generalize result : some a = outcome at ends
  induction ends generalizing s with
  | done b w =>
    obtain rfl := Option.some.inj result
    exact ⟨[], s, .nil s, rfl, world, begun, fun j _ => ⟨rfl, rfl⟩⟩
  | abandoned w => cases result
  | tick clock ends ih =>
    obtain ⟨es, s', run, told, stands, left, others⟩ :=
      @ih { s with world := { s.world with clock } } begun (by rw [world]) result
    exact ⟨.tick clock :: es, s', .cons (.tick s clock) run, told, stands, left, others⟩
  | @call c next w w' later outcome ends ih =>
    subst world
    obtain ⟨es, s', run, told, stands, left, others⟩ := @ih (s.advance i)
      ((tasks_advance begun).trans rfl) (world_advance begun) result
    refine ⟨_, s', .cons (.exchange begun) run, (if_pos rfl).trans (congrArg _ told), stands, left,
      fun j other => ?_⟩
    obtain ⟨waits, silent⟩ := others j other
    exact ⟨waits.trans (tasks_advance_of_ne s other), (if_neg (Ne.symm other)).trans silent⟩

/-- So what a request does while the clock stands still is a run of it by itself. -/
theorem Pool.exists_run_of_run {ι α β : Type} [DecidableEq ι] {s : Pool ι α} {i : ι} {t : Task β}
    {k : β → Task α} {a : β} {ended : Option β × World} (begun : s.tasks i = t.bind k)
    (ran : t.run s.world = ended) (result : ended.1 = some a) :
    ∃ es s', Run s es s' ∧ t.After (dialogue i es) (.done a) ∧ s'.world = ended.2 ∧
      s'.tasks i = k a ∧ ∀ j, j ≠ i → s'.tasks j = s.tasks j ∧ dialogue j es = [] := by
  obtain ⟨heard, ends⟩ := Task.exists_ends_of_run ran
  rw [result] at ends
  obtain ⟨es, s', run, told, stands, left, others⟩ := exists_run_of_ends begun ends
  exact ⟨es, s', run, told ▸ ends.after, stands, left, others⟩

/-! ### What worlds have in common -/

namespace World

/-- Two worlds hold the same objects, but for the notes of uses in tokens of some names. -/
structure SameUpTo (noted : String → Prop) (w w' : World) : Prop where
  users : w'.users = w.users
  accessTokens : ∀ name, w'.accessTokens.find? name = w.accessTokens.find? name ∨
    noted name ∧ ∃ stored stored', w.accessTokens.find? name = some stored ∧
      w'.accessTokens.find? name = some stored' ∧ stored'.lasting = stored.lasting

variable {w w₁ w₂ w₃ : World} {noted noted' : String → Prop}

/-- Time that passes leaves the stores. -/
theorem sameStores_tick (w : World) (clock : Instant) : w.SameStores { w with clock }
  | .accessTokens => rfl
  | .users => rfl

/-- Stores that are the same are the same up to any notes. -/
theorem SameStores.sameUpTo (h : w₁.SameStores w₂) : w₁.SameUpTo noted w₂ where
  users := h .users
  accessTokens name := .inl (h.find? .accessTokens name)

/-- What two steps leave up to notes is left by both together. -/
theorem SameUpTo.trans (h : w₁.SameUpTo noted w₂) (h' : w₂.SameUpTo noted w₃) :
    w₁.SameUpTo noted w₃ where
  users := h'.users.trans h.users
  accessTokens name := by
    obtain same' | ⟨isNoted, second, third, found₂, found₃, same₂₃⟩ := h'.accessTokens name
    · rw [same']
      exact h.accessTokens name
    · obtain same | ⟨-, first, second', found₁, found₂', same₁₂⟩ := h.accessTokens name
      · exact .inr ⟨isNoted, second, third, same ▸ found₂, found₃, same₂₃⟩
      · obtain rfl : second = second' := Option.some.inj (found₂.symm.trans found₂')
        exact .inr ⟨isNoted, first, third, found₁, found₃, same₂₃.trans same₁₂⟩

/-- More notes may be made than are. -/
theorem SameUpTo.mono (h : w₁.SameUpTo noted w₂) (weaker : ∀ name, noted name → noted' name) :
    w₁.SameUpTo noted' w₂ where
  users := h.users
  accessTokens name := (h.accessTokens name).imp id (.imp (weaker name) id)

/-- Notes of uses neither create nor delete. -/
theorem SameUpTo.find?_eq_none_iff (h : w₁.SameUpTo noted w₂) (c : Collection) (name : String) :
    (w₂.store c).find? name = none ↔ (w₁.store c).find? name = none := by
  cases c with
  | users => exact iff_of_eq (congrArg (fun s : Store Resource.User => s.find? name = none) h.users)
  | accessTokens =>
    change w₂.accessTokens.find? name = none ↔ w₁.accessTokens.find? name = none
    obtain same | ⟨-, stored, stored', found, found', -⟩ := h.accessTokens name
    · rw [same]
    · rw [found, found']
      simp

/-- Worlds that are the same up to some notes stay so when the same object is put into both. -/
theorem SameUpTo.put (h : w₁.SameUpTo noted w₂) (c : Collection) (object : c.Object) :
    (w₁.withStore c ((w₁.store c).put object)).SameUpTo noted
      (w₂.withStore c ((w₂.store c).put object)) := by
  cases c with
  | users =>
    exact ⟨congrArg (fun s : Store Resource.User => s.put object) h.users, h.accessTokens⟩
  | accessTokens =>
    refine ⟨h.users, fun name => ?_⟩
    change (w₂.accessTokens.put object).find? name = (w₁.accessTokens.put object).find? name ∨ noted
      name ∧ ∃ stored stored', (w₁.accessTokens.put object).find? name = some stored ∧
        (w₂.accessTokens.put object).find? name = some stored' ∧ stored'.lasting = stored.lasting
    rw [Store.find?_put, Store.find?_put]
    split
    · exact .inl rfl
    · exact h.accessTokens name

/-- So they do when the token of the same name is taken out of both. -/
theorem SameUpTo.drop (h : w₁.SameUpTo noted w₂) (dropped : String) :
    { w₁ with accessTokens := w₁.accessTokens.drop dropped }.SameUpTo noted
      { w₂ with accessTokens := w₂.accessTokens.drop dropped } where
  users := h.users
  accessTokens name := by
    rw [Store.find?_drop, Store.find?_drop]
    split
    · exact .inl rfl
    · exact h.accessTokens name

end World

/-- Two worlds have the same stores, and the same audit. -/
structure World.Intact (w w' : World) : Prop where
  stores : w.SameStores w'
  audits : w'.audits = w.audits

namespace World.Intact

variable {w w₁ w₂ w₃ : World}

/-- A world is intact to begin with. -/
theorem refl (w : World) : w.Intact w := ⟨.refl w, rfl⟩

/-- What two steps leave intact is intact after both. -/
theorem trans (h : w₁.Intact w₂) (h' : w₂.Intact w₃) : w₁.Intact w₃ :=
  ⟨h.stores.trans h'.stores, h'.audits.trans h.audits⟩

/-- Time that passes leaves a world intact. -/
theorem tick (w : World) (clock : Instant) : w.Intact { w with clock } :=
  ⟨w.sameStores_tick clock, rfl⟩

/-- Calls that ask and do not change leave a world intact. -/
theorem perform (w : World) {call : Call} (quiet : call.isQuiet = true) :
    w.Intact (w.perform call).2 :=
  ⟨w.sameStores_perform quiet, w.audits_perform (Call.usesAtMost_of_isQuiet quiet)⟩

end World.Intact

/-- **A task that only asks leaves the stores as they are.** -/
theorem Task.Ends.sameStores {α : Type} {t : Task α} {w w' : World} {heard : List Exchange}
    {outcome : Option α} (ends : t.Ends w heard outcome w') (quiet : t.IsQuiet) :
    w.SameStores w' := by
  induction ends with
  | done a w => exact .refl w
  | abandoned w => exact quiet.elim
  | tick clock ends ih => exact (World.sameStores_tick _ clock).trans (ih quiet)
  | call ends ih => exact (World.sameStores_perform _ quiet.1).trans (ih (quiet.2 _))

/-- A task that notes uses at most adds nothing to the audit. -/
theorem Task.Ends.audits {α : Type} {t : Task α} {w w' : World} {heard : List Exchange}
    {outcome : Option α} (ends : t.Ends w heard outcome w') (uses : t.Only (·.usesAtMost = true)) :
    w'.audits = w.audits := by
  induction ends with
  | done a w => rfl
  | abandoned w => rfl
  | tick clock ends ih => exact ih uses
  | call ends ih => exact (ih (uses.2 _)).trans (World.audits_perform _ uses.1)

/-- A task that only asks leaves a world intact. -/
theorem Task.Ends.intact {α : Type} {t : Task α} {w w' : World} {heard : List Exchange}
    {outcome : Option α} (ends : t.Ends w heard outcome w') (quiet : t.IsQuiet) : w.Intact w' :=
  ⟨ends.sameStores quiet, ends.audits quiet.only_uses⟩

/-- A task that only asks next goes on in a world with the same stores and audit. -/
theorem Task.Ends.of_quiet {α : Type} {c : Call} {next : c.Answer → Task α} {w w' : World}
    {heard : List Exchange} {outcome : Option α} (quiet : c.isQuiet = true)
    (h : (Task.call c next).Ends w heard outcome w') :
    ∃ answer w₁ later, heard = ⟨c, answer⟩ :: later ∧ w.Intact w₁ ∧
      (next answer).Ends w₁ later outcome w' := by
  obtain ⟨clock, later, rfl, ends⟩ := h.of_call
  exact ⟨_, _, later, rfl, (World.Intact.tick w clock).trans (World.Intact.perform _ quiet), ends⟩

/-- A task that looks an object up goes on with what is stored. -/
theorem Task.Ends.of_find {α : Type} {c : Collection} {name : String}
    {next : Option c.Object → Task α} {w w' : World} {heard : List Exchange} {outcome : Option α}
    (h : (Task.call (.store c (.find name)) next).Ends w heard outcome w') :
    ∃ w₁ later, heard = ⟨.store c (.find name), (w.store c).find? name⟩ :: later ∧ w.Intact w₁ ∧
      (next ((w.store c).find? name)).Ends w₁ later outcome w' := by
  obtain ⟨clock, later, rfl, ends⟩ := h.of_call
  have same : w.Intact (World.perform { w with clock } (.store c (.find name))).2 :=
    (World.Intact.tick w clock).trans (World.Intact.perform _ rfl)
  have answer : (World.perform { w with clock } (.store c (.find name))).1 =
      (w.store c).find? name := by
    cases c <;> rfl
  exact ⟨_, later, by rw [answer], same, answer ▸ ends⟩

/-! ### Authentications -/

/-- A verdict accepts. -/
def Verdict.Accepts (verdict : Verdict) : Prop :=
  ∃ accepted, verdict = .ok (some accepted)

/-- The name under which the token that some credentials carry is stored. -/
def Credentials.tokenName? (credentials : Credentials) : Option String :=
  ((Http.Header.first? credentials.headers Bearer.fieldName).bind (Bearer.token? ·.value)).map
    fun token => TokenName.ofToken (String.ofList token)

/-- All that a task does to the stores is to note a use in the token of a name, and this only if
there is an inactivity timeout and the task comes to an acceptance. To the audit it does nothing. -/
structure Task.NotesUse {α : Type} (timeout : Option UInt64) (named : String → Prop)
    (accepts : α → Prop) (t : Task α) : Prop where
  only : t.Only (·.usesAtMost = true)
  sameUpTo : ∀ {w w' : World} {heard : List Exchange} {outcome : Option α},
    t.Ends w heard outcome w' →
      w.SameUpTo (fun name => named name ∧ timeout ≠ none ∧ ∃ a, outcome = some a ∧ accepts a) w'

section NotesUse

variable {α : Type} {timeout : Option UInt64} {named : String → Prop} {accepts : α → Prop}
  {t : Task α} {w w' : World} {heard : List Exchange}

/-- A task that ends with a result notes a use only if that is an acceptance. -/
theorem Task.NotesUse.of_some (h : t.NotesUse timeout named accepts) {a : α}
    (ends : t.Ends w heard (some a) w') :
    w.SameUpTo (fun name => named name ∧ timeout ≠ none ∧ accepts a) w' := by
  refine (h.sameUpTo ends).mono ?_
  rintro name ⟨isNamed, limited, b, same, accepted⟩
  obtain rfl := Option.some.inj same
  exact ⟨isNamed, limited, accepted⟩

/-- Without an acceptance nothing is noted. -/
theorem Task.NotesUse.of_not_accepts (h : t.NotesUse timeout named accepts) {outcome : Option α}
    (ends : t.Ends w heard outcome w') (rejected : ∀ a, outcome = some a → ¬accepts a)
    {noted : String → Prop} : w.SameUpTo noted w' := by
  refine (h.sameUpTo ends).mono ?_
  rintro name ⟨-, -, a, same, accepted⟩
  exact absurd accepted (rejected a same)

end NotesUse

/-- A task that only asks notes no use. -/
theorem Task.IsQuiet.notesUse {α : Type} {t : Task α} (quiet : t.IsQuiet) {timeout : Option UInt64}
    {named : String → Prop} {accepts : α → Prop} : t.NotesUse timeout named accepts :=
  ⟨quiet.only_uses, fun ends => (ends.sameStores quiet).sameUpTo⟩

/-- A task that is done notes no use. -/
theorem Task.notesUse_done {α : Type} (a : α) {timeout : Option UInt64} {named : String → Prop}
    {accepts : α → Prop} : (Task.done a).NotesUse timeout named accepts :=
  IsQuiet.notesUse (t := .done a) trivial

/-- What is made of the result of an authentication changes nothing, as long as it keeps what was
accepted. -/
theorem Task.NotesUse.bind {α β : Type} {t : Task α} {f : α → Task β} {timeout : Option UInt64}
    {named : String → Prop} {accepts : α → Prop} {accepts' : β → Prop}
    (ht : t.NotesUse timeout named accepts) (quiet : ∀ a, (f a).IsQuiet)
    (keeps : ∀ a w w' heard outcome, accepts a → (f a).Ends w heard outcome w' →
      ∃ b, outcome = some b ∧ accepts' b) :
    (t.bind f).NotesUse timeout named accepts' := by
  refine ⟨ht.only.bind fun a => (quiet a).only_uses, ?_⟩
  intro w w' heard outcome ends
  obtain ⟨a, before, after, w₁, rfl, first, second⟩ | ⟨rfl, first⟩ := ends.of_bind
  · refine ((ht.of_some first).mono ?_).trans (second.sameStores (quiet a)).sameUpTo
    rintro name ⟨isNamed, limited, accepted⟩
    exact ⟨isNamed, limited, keeps a _ _ _ _ accepted second⟩
  · exact ht.of_not_accepts first nofun

namespace TokenAuthenticator

variable {timeout : Option UInt64}

/-- To write a token back that was found, as a use leaves it, is to note the use. -/
theorem sameUpTo_replace {w : World} {stored object : AccessToken}
    (found : w.accessTokens.find? (Stored.name stored) = some stored)
    (used : object.lasting = stored.lasting) :
    let made := w.perform (.store .accessTokens (.replace object))
    w.SameUpTo (· = Stored.name stored) made.2 ∧ made.1 = .ok object := by
  have named : Stored.name object = Stored.name stored :=
    congrArg (·.metadata.name) used
  have put := Store.perform_replace_of_found (named.symm ▸ found)
  refine ⟨⟨rfl, fun name => ?_⟩, congrArg Prod.fst put⟩
  change (w.accessTokens.perform (.replace object)).2.find? name = _ ∨ _ ∧ ∃ stored stored', _ ∧
    (w.accessTokens.perform (.replace object)).2.find? name = _ ∧ _
  rw [put, Store.find?_put, named]
  split
  · rename_i same
    exact .inr ⟨same, stored, object, same ▸ found, rfl, used⟩
  · exact .inl rfl

/-- The note of a use in a stored token does not fail. -/
theorem sameUpTo_noteUse {w w' : World} {stored : AccessToken} {seconds : UInt64}
    {heard : List Exchange} {outcome : Option (Except AuthenticationError Unit)}
    (found : w.accessTokens.find? (Stored.name stored) = some stored)
    (ends : (noteUse stored seconds : Task _).Ends w heard outcome w') :
    w.SameUpTo (· = Stored.name stored) w' ∧ outcome = some (.ok ()) := by
  obtain ⟨now, w₁, later, -, ⟨same, -⟩, asked⟩ := Task.Ends.of_quiet rfl ends
  obtain ⟨clock, last, -, written⟩ := asked.of_call
  have ticked := same.trans (World.sameStores_tick w₁ clock)
  obtain ⟨noted, answer⟩ := sameUpTo_replace ((ticked.find? .accessTokens _).trans found)
    (stored.lasting_used now seconds)
  rw [answer] at written
  obtain ⟨-, rfl, clock', rfl⟩ := written.of_done
  exact ⟨ticked.sameUpTo.trans (noted.trans (World.sameStores_tick _ clock').sameUpTo), rfl⟩

/-- The check of the user of a token notes no use but that of the token, and this only if it
accepts. -/
theorem sameUpTo_checkUser {w w' : World} {stored : AccessToken} {heard : List Exchange}
    {outcome : Option Verdict}
    (found : w.accessTokens.find? (Stored.name stored) = some stored)
    (ends : (checkUser stored timeout : Task Verdict).Ends w heard outcome w') :
    w.SameUpTo (fun name => name = Stored.name stored ∧ timeout ≠ none ∧
      ∃ verdict, outcome = some verdict ∧ Verdict.Accepts verdict) w' := by
  obtain ⟨user, w₁, later, -, ⟨same, -⟩, asked⟩ := Task.Ends.of_quiet rfl ends
  refine same.sameUpTo.trans ?_
  cases user with
  | none => exact (asked.sameStores trivial).sameUpTo
  | some user =>
    dsimp only [Task.done_bind] at asked
    split at asked
    · exact (asked.sameStores ⟨rfl, fun _ => trivial⟩).sameUpTo
    · cases timeout with
      | none => exact (asked.sameStores trivial).sameUpTo
      | some seconds =>
        have found := (same.find? .accessTokens _).trans found
        obtain ⟨noted, before, after, w₂, -, first, second⟩ | ⟨-, first⟩ :=
          Task.Ends.of_bind asked
        · obtain ⟨notes, result⟩ := sameUpTo_noteUse found first
          obtain rfl := Option.some.inj result
          obtain ⟨-, rfl, clock, rfl⟩ := second.of_done
          refine (notes.mono fun name named => ?_).trans (World.sameStores_tick _ clock).sameUpTo
          exact ⟨named, nofun, _, rfl, _, rfl⟩
        · obtain ⟨-, failed⟩ := sameUpTo_noteUse found first
          cases failed

/-- **An authentication by stored tokens notes no use but that of the token it accepts.** -/
theorem notesUse_accessTokens (timeout : Option UInt64) (token : String)
    (audiences : Option Audiences) :
    (accessTokens timeout token audiences : Task Verdict).NotesUse timeout
      (· = TokenName.ofToken token) Verdict.Accepts := by
  refine ⟨only_uses_accessTokens timeout token audiences, ?_⟩
  intro w w' heard outcome ends
  rw [accessTokens_eq] at ends
  obtain ⟨w₁, later, -, ⟨same, -⟩, looked⟩ := ends.of_find
  refine same.sameUpTo.trans ?_
  cases found : (w.store .accessTokens).find? (TokenName.ofToken token) with
  | none =>
    rw [found] at looked
    exact (looked.sameStores trivial).sameUpTo
  | some stored =>
    rw [found] at looked
    obtain ⟨now, w₂, later, -, ⟨same', -⟩, read⟩ := Task.Ends.of_quiet rfl looked
    refine same'.sameUpTo.trans ?_
    rcases inForce : stored.inForce? now with _ | _ | ⟨⟩ <;> simp only [inForce] at read
    · obtain ⟨-, -, clock, rfl⟩ := read.of_abandoned
      exact (World.sameStores_tick _ clock).sameUpTo
    · exact (read.sameStores trivial).sameUpTo
    · have name := Store.name_of_find? found
      rw [← name] at found ⊢
      exact sameUpTo_checkUser (((same.trans same').find? .accessTokens _).trans found) read

/-- A check of the audiences notes no use of its own. -/
theorem notesUse_audienceAgnostic {named : String → Prop} {delegate : TokenAuthenticator Task}
    {token : String} (h : (delegate token none).NotesUse timeout named Verdict.Accepts)
    (own : Audiences) (audiences : Option Audiences) :
    (audienceAgnostic own delegate token audiences).NotesUse timeout named Verdict.Accepts := by
  unfold audienceAgnostic
  dsimp only
  split
  · exact h
  · split
    · exact Task.notesUse_done _
    · refine h.bind (fun _ => trivial) ?_
      rintro _ w w' heard outcome ⟨accepted, rfl⟩ ends
      obtain ⟨-, rfl, -⟩ := ends.of_done
      exact ⟨_, rfl, _, rfl⟩

/-- Members that are asked one after the other note a use only if one of them accepts. -/
theorem notesUse_firstAccepted {named : String → Prop} {token : String}
    {audiences : Option Audiences} {members : List (TokenAuthenticator Task)}
    (h : ∀ a ∈ members, (a token audiences).NotesUse timeout named Verdict.Accepts)
    (errors : List AuthenticationError) :
    (firstAccepted token audiences members errors).NotesUse timeout named Verdict.Accepts := by
  induction members generalizing errors with
  | nil =>
    refine Task.IsQuiet.notesUse ?_
    unfold firstAccepted
    split <;> trivial
  | cons member rest ih =>
    have others := ih fun a ha => h a (List.mem_cons_of_mem _ ha)
    refine ⟨only_firstAccepted (fun a ha => (h a ha).only) errors, ?_⟩
    intro w w' heard outcome ends
    have notes := h member List.mem_cons_self
    obtain ⟨verdict, before, after, w₁, -, first, second⟩ | ⟨rfl, first⟩ := Task.Ends.of_bind ends
    · rcases verdict with e | _ | accepted
      · exact (notes.of_not_accepts first (by rintro _ ⟨⟩ ⟨_, ⟨⟩⟩)).trans
          ((others _).sameUpTo second)
      · exact (notes.of_not_accepts first (by rintro _ ⟨⟩ ⟨_, ⟨⟩⟩)).trans
          ((others _).sameUpTo second)
      · obtain ⟨-, rfl, clock, rfl⟩ := second.of_done
        exact (notes.sameUpTo first).trans (World.sameStores_tick _ clock).sameUpTo
    · exact notes.of_not_accepts first nofun

end TokenAuthenticator

/-- A reader of header fields notes no use but that of the token that it reads. -/
theorem RequestAuthenticator.notesUse_bearer {timeout : Option UInt64}
    {delegate : TokenAuthenticator Task}
    (h : ∀ token audiences, (delegate token audiences).NotesUse timeout
      (· = TokenName.ofToken token) Verdict.Accepts) (credentials : Credentials) :
    (bearer delegate credentials).NotesUse timeout (credentials.tokenName? = some ·)
      Verdict.Accepts := by
  unfold bearer
  split
  · exact Task.notesUse_done _
  · exact Task.notesUse_done _
  · rename_i token _ carried
    refine ⟨(h _ _).only, ?_⟩
    intro w w' heard outcome ends
    refine ((h _ _).sameUpTo ends).mono ?_
    rintro name ⟨rfl, limited⟩
    exact ⟨by rw [Credentials.tokenName?, carried]; rfl, limited⟩

end TokenAuthority
