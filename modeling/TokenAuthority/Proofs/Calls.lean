/-
# What a request may call

`Task.Makes` says of a task that each of its calls is as wanted after what was heard before it.
`App.May` lists all that an application may call while it answers a request
(`App.makes_answer`):

| call | when |
| --- | --- |
| a question, a message, the replacement of a token | |
| the insertion of an object | nothing was wrong with it when it was posted |
| the removal of a token | it is the first call of the request that is none of the former |
| the event of a creation | |
| the event of a deletion | a token was found, admission let it pass, and one was removed |

What the application does to tokens in the notes of uses is not said here but by `Task.Behaves`.
-/

import TokenAuthority.Proofs.Unchanged

namespace TokenAuthority

open Http (Request Response)
open Server (Route)
open Time (Instant)

namespace Task

variable {α β : Type} {wanted : List Exchange → Call → Prop} {heard later : List Exchange}

/-- All calls of a task, whatever it is answered, are as wanted after what was heard, the latest
first. -/
def Makes (wanted : List Exchange → Call → Prop) : List Exchange → Task α → Prop
  | _, done _ => True
  | _, abandoned => True
  | heard, call c next =>
      wanted heard c ∧ ∀ answer, (next answer).Makes wanted (⟨c, answer⟩ :: heard)

/-- Calls that are always allowed are allowed after anything that was heard. -/
theorem Only.makes {p : Call → Prop} {t : Task α} (ht : t.Only p)
    (weaker : ∀ heard c, p c → wanted heard c) : t.Makes wanted heard := by
  induction t generalizing heard with
  | done a => trivial
  | abandoned => trivial
  | call c next ih => exact ⟨weaker _ c ht.1, fun answer => ih answer (ht.2 answer)⟩

/-- All calls of a task that were answered are among those that it can make. -/
theorem Only.of_after {p : Call → Prop} {t left : Task α} (ht : t.Only p)
    (after : t.After later left) : ∀ x ∈ later, p x.call := by
  induction after with
  | nothing t => exact fun x mem => absurd mem List.not_mem_nil
  | heard after ih => exact List.forall_mem_cons.2 ⟨ht.1, ih (ht.2 _)⟩

/-- A task that goes on with a result goes on after what has led to it. -/
theorem Makes.bind {t : Task α} {f : α → Task β} (ht : t.Makes wanted heard)
    (hf : ∀ later a, t.After later (.done a) → (f a).Makes wanted (later.reverse ++ heard)) :
    (t.bind f).Makes wanted heard := by
  induction t generalizing heard with
  | done a => exact hf [] a (.nothing _)
  | abandoned => trivial
  | call c next ih =>
    refine ⟨ht.1, fun answer => ih answer (ht.2 answer) fun later a after => ?_⟩
    have goes := hf (⟨c, answer⟩ :: later) a (.heard after)
    rwa [List.reverse_cons, List.append_assoc] at goes

/-- What is left of a task makes its calls after what was heard. -/
theorem Makes.after {t left : Task α} (ht : t.Makes wanted heard) (after : t.After later left) :
    left.Makes wanted (later.reverse ++ heard) := by
  induction after generalizing heard with
  | nothing p => exact ht
  | heard after ih =>
    rw [List.reverse_cons, List.append_assoc]
    exact ih (ht.2 _)

end Task

namespace Pool

variable {ι α : Type} [DecidableEq ι] {s s' : Pool ι α} {es : List (Event ι)} {i : ι}

/-- **Whenever a request makes a call, it is as wanted.** -/
theorem Run.wanted (run : Run s es s') {wanted : List Exchange → Call → Prop}
    (makes : (s.tasks i).Makes wanted []) {before after : List (Event ι)} {x : Exchange}
    (split : es = before ++ .exchange i x :: after) :
    wanted (dialogue i before).reverse x.call := by
  obtain ⟨s₁, run₁, run₂⟩ := (split ▸ run).of_append
  cases run₂ with
  | cons step run₂ =>
    obtain ⟨⟨next, calls⟩, -⟩ := step.calls
    have left := makes.after (run₁.after i)
    rw [calls, List.append_nil] at left
    exact left.1

/-- What a request has heard is found again among the events. -/
theorem exists_of_dialogue {x : Exchange} {earlier later : List Exchange}
    (h : dialogue i es = earlier ++ x :: later) :
    ∃ before after, es = before ++ .exchange i x :: after ∧ dialogue i before = earlier ∧
      dialogue i after = later := by
  induction es generalizing earlier with
  | nil => cases earlier <;> cases h
  | cons e es ih =>
    have goes (skips : dialogue i (e :: es) = dialogue i es)
        (skips' : ∀ before, dialogue i (e :: before) = dialogue i before) :
        ∃ before after, e :: es = before ++ .exchange i x :: after ∧ dialogue i before = earlier ∧
          dialogue i after = later := by
      obtain ⟨before, after, rfl, first, second⟩ := ih (skips ▸ h)
      exact ⟨e :: before, after, rfl, (skips' before).trans first, second⟩
    cases e with
    | tick clock => exact goes rfl fun _ => rfl
    | exchange j y =>
      by_cases same : j = i
      · subst same
        have now (es : List (Event ι)) : dialogue j (.exchange j y :: es) = y :: dialogue j es :=
          if_pos rfl
        rw [now] at h
        cases earlier with
        | nil =>
          obtain ⟨rfl, rfl⟩ := List.cons.inj h
          exact ⟨[], es, rfl, rfl, rfl⟩
        | cons z earlier =>
          obtain ⟨rfl, rest⟩ := List.cons.inj (h.trans (List.cons_append ..))
          obtain ⟨before, after, rfl, first, second⟩ := ih rest
          exact ⟨.exchange j y :: before, after, rfl, by rw [now, first], second⟩
      · exact goes (if_neg same) fun _ => if_neg same

end Pool

namespace App

/-- What an application may call after what was heard, the latest first, while it answers a
request. -/
inductive May (app : App Task) (heard : List Exchange) : Call → Prop where
  /-- It may ask, write messages and note uses. -/
  | use {call : Call} (uses : call.usesAtMost = true) : May app heard call
  /-- It may put in a new object that nothing is wrong with. -/
  | insert {c : Collection} {posted : c.Object} (faultless : c.fault? posted = none)
      (now : Instant) : May app heard (.store c (.insert (Stored.stamp posted now)))
  /-- It may remove a token, if it has changed nothing but by notes of uses. -/
  | remove (name : String) (first : ∀ x ∈ heard, x.call.usesAtMost = true) :
      May app heard (.store .accessTokens (.remove name))
  | creation {event : AuditEvent} (verb : event.verb = "create") :
      May app heard (.record (.audit event))
  /-- It may tell of the deletion of a token that was found before it was removed. -/
  | deletion {caller : Identity} {name : String} {found deleted : Resource.AccessToken}
      {noted : Admission.Change} {earlier between later : List Exchange}
      (split : heard = later ++ ⟨.store .accessTokens (.remove name), .ok deleted⟩ ::
        (between ++ ⟨.store .accessTokens (.find name), some found⟩ :: earlier))
      (admitted : (Admission.validate app.admission (.deleting caller name found)).After
        between.reverse (.done (noted, .ok ()))) :
      May app heard (.record (.audit (noted.auditEvent "delete" 200)))

section Endpoints

variable {app : App Task} {timeout : Option UInt64} {heard : List Exchange}

/-- What notes uses at most may be called at any time. -/
theorem May.of_only {α : Type} {t : Task α} (uses : t.Only (·.usesAtMost = true)) :
    t.Makes app.May heard :=
  uses.makes fun _ _ => .use

/-- Creating an object makes no calls that an application may not make. -/
theorem makes_create (parts : app.PartsNote timeout) (c : Collection) (caller : Identity)
    (request : Request) : (app.create c caller request).Makes app.May heard := by
  unfold create
  split
  · trivial
  · rename_i object readable
    split
    · trivial
    · rename_i faultless
      have admission := Admission.isQuiet_validate parts.admission (.creating c caller object)
      refine (May.of_only admission.only_uses).bind fun _ ⟨change, verdict⟩ _ => ?_
      dsimp only
      split
      · trivial
      · have stores {heard : List Exchange} :
            (Backend.create c object : Task _).Makes app.May heard := by
          unfold Backend.create
          split
          · trivial
          · refine ⟨.use rfl, fun now => ⟨.use (Call.usesAtMost_of_isQuiet rfl), fun room => ?_⟩⟩
            cases room with
            | error e => trivial
            | ok =>
              exact ⟨.insert (Option.eq_none_iff_forall_ne_some.2 faultless) now, fun _ => trivial⟩
        refine stores.bind fun _ stored _ => ?_
        cases stored with
        | error e => trivial
        | ok created => exact ⟨.creation rfl, fun _ => trivial⟩

/-- Deleting a token makes no calls that an application may not make. -/
theorem makes_deleteAccessToken (parts : app.PartsNote timeout)
    (first : ∀ x ∈ heard, x.call.usesAtMost = true) (caller : Identity) (name : String) :
    (app.deleteAccessToken caller name).Makes app.May heard := by
  refine ⟨.use rfl, fun found => ?_⟩
  cases found with
  | none => trivial
  | some found =>
    have admission := (Admission.isQuiet_validate parts.admission
      (.deleting caller name found)).only_uses
    refine (May.of_only admission).bind fun between ⟨noted, verdict⟩ after => ?_
    cases verdict with
    | error objection => trivial
    | ok =>
      refine ⟨.remove name fun x mem => ?_, fun removed => ?_⟩
      · rcases List.mem_append.1 mem with asked | earlier
        · exact admission.of_after after x (List.mem_reverse.1 asked)
        · rcases List.mem_cons.1 earlier with rfl | before
          · rfl
          · exact first x before
      · cases removed with
        | error e => trivial
        | ok deleted =>
          rw [← List.reverse_reverse between] at after
          -- the message about the deletion comes before the event
          exact ⟨.use rfl, fun told => ⟨.deletion (List.singleton_append ..).symm after,
            fun _ => trivial⟩⟩

/-- No route makes calls that an application may not make. -/
theorem makes_dispatch (parts : app.PartsNote timeout)
    (first : ∀ x ∈ heard, x.call.usesAtMost = true) (route : Route) (caller : Identity)
    (request : Request) : (app.dispatch route caller request).Makes app.May heard := by
  have decoding {next : String → Task Response} (h : ∀ text, (next text).Makes app.May heard)
      (segment : String) : (decoding segment next).Makes app.May heard := by
    unfold App.decoding
    split
    · exact h _
    · trivial
  have review (ns : Option String) : (app.createTokenReview ns request).Makes app.May heard :=
    May.of_only (only_createTokenReview (fun _ _ => rfl)
      (fun authenticate isSome credentials => (parts.reviewer authenticate isSome credentials).only)
      ns request)
  have get (c : Collection) (name : String) : (get c name : Task _).Makes app.May heard :=
    May.of_only (isQuiet_get c name).only_uses
  unfold dispatch
  split
  · rename_i endpoint _
    cases endpoint with
    | checkHealth => trivial
    | checkReadiness => exact May.of_only isQuiet_checkReadiness.only_uses
    | describe => trivial
    | showReference => trivial
    | createTokenReview ns =>
      cases ns with
      | none => exact review none
      | some ns => exact decoding (fun ns => review (some ns)) ns
    | createAccessToken => exact makes_create parts .accessTokens caller request
    | getAccessToken name => exact decoding (get .accessTokens) name
    | deleteAccessToken name => exact decoding (makes_deleteAccessToken parts first caller) name
    | createUser => exact makes_create parts .users caller request
    | getUser name => exact decoding (get .users) name
  · trivial

/-- **An application calls only what it may.** -/
theorem makes_answer (parts : app.PartsNote timeout) (request : Request) :
    (app.answer request).Makes app.May [] := by
  cases matched : Route.ofPath request.path with
  | none =>
    unfold answer
    rw [matched]
    trivial
  | some route =>
    by_cases guarded : route.isProtected = true
    · obtain ⟨policy, decides⟩ := parts.authorizer
      rw [answer_eq app matched guarded]
      have screen := only_screen app (fun _ _ => rfl)
        (fun credentials => (parts.authenticator credentials).only) decides matched guarded
      refine (May.of_only screen).bind fun later outcome after => ?_
      cases outcome with
      | error refusal => trivial
      | ok caller =>
        refine (makes_dispatch parts ?_ route caller request).bind fun _ _ _ => trivial
        rw [List.append_nil]
        exact fun x mem => screen.of_after after x (List.mem_reverse.1 mem)
    · unfold answer guard
      rw [matched]
      dsimp only
      rw [if_neg guarded]
      have first (x : Exchange) (mem : x ∈ []) : x.call.usesAtMost = true := absurd mem nofun
      exact (makes_dispatch parts first route {} request).bind fun _ _ _ => trivial

end Endpoints

end App

end TokenAuthority
