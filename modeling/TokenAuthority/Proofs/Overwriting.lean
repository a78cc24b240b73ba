/-
# What a use writes over

An authentication looks a token up, checks it, and writes it back with a later deadline
(`Pool.Run.writes_found`). In between, another request may delete the token, and a third one create
another token of the same name; then the old one is written over the new one
(`Pool.Run.overwritten`). So what is stored under a name is what was last created there, up to the
deadline, exactly as long as what is written back agrees with that (`Pool.Run.current`), and in
particular as long as nothing is created between the lookup of an authentication and the note of
the use.
-/

import Mathlib.Data.Fin.VecNotation
import TokenAuthority.Proofs.Requests
import TokenAuthority.Proofs.Revocation

namespace TokenAuthority

open Resource (AccessToken)

/-- What is done with the tokens of a name. -/
inductive Job where
  | authenticate (timeout : Option UInt64) (token : String) (audiences : Option Audiences)
  | create (token : AccessToken)
  | delete (name : String)

/-- How a job is done. -/
def Job.task : Job → Task Unit
  | authenticate timeout token audiences =>
    TokenAuthenticator.accessTokens timeout token audiences >>= fun _ => pure ()
  | create token => Backend.create .accessTokens token >>= fun _ => pure ()
  | delete name => Backend.remove .accessTokens name >>= fun _ => pure ()

/-- Every job does with stored tokens what it may. -/
theorem Job.behaves (job : Job) : ∃ timeout, job.task.Behaves timeout [] := by
  cases job with
  | authenticate timeout token audiences =>
    refine ⟨timeout, Task.Behaves.bind ?_ fun _ => trivial⟩
    exact TokenAuthenticator.behaves_accessTokens timeout token audiences
  | create token => exact ⟨none, (Backend.behaves_create .accessTokens token).bind fun _ => trivial⟩
  | delete name => exact ⟨none, Task.behaves_call fun _ => trivial⟩

namespace Event

variable {ι : Type}

/-- The token of a name that is created. -/
def created? (name : String) : Event ι → Option AccessToken
  | .exchange _ ⟨.store .accessTokens (.insert object), .ok _⟩ =>
    if Stored.name object = name then some object else none
  | _ => none

/-- A use of the token of a name is noted. -/
def Writes (name : String) (i : ι) (object : AccessToken) (e : Event ι) : Prop :=
  Stored.name object = name ∧
    ∃ answer, e = .exchange i ⟨.store .accessTokens (.replace object), .ok answer⟩

/-- The token of a name that was last created, where there was one at the beginning. -/
def latest (name : String) (first : Option AccessToken) : List (Event ι) → Option AccessToken
  | [] => first
  | e :: es => latest name ((e.created? name).or first) es

/-- What was last created in two runs is what was so in the second, or before it. -/
theorem latest_append (name : String) (first : Option AccessToken) (es es' : List (Event ι)) :
    latest name first (es ++ es') = latest name (latest name first es) es' := by
  induction es generalizing first with
  | nil => rfl
  | cons e es ih => exact ih _

/-- What puts nothing in under a name creates no token of that name. -/
theorem created?_eq_none {name : String} {e : Event ι} (h : ¬e.Inserts .accessTokens name) :
    e.created? name = none := by
  unfold created?
  split
  · rename_i i object stored
    exact if_neg fun named => h ⟨i, object, stored, rfl, named⟩
  · rfl

/-- Without creations, the token that was last created stays so. -/
theorem latest_of_not_inserts {name : String} {first : Option AccessToken} {es : List (Event ι)}
    (h : ∀ e ∈ es, ¬e.Inserts .accessTokens name) : latest name first es = first := by
  induction es generalizing first with
  | nil => rfl
  | cons e es ih =>
    unfold latest
    rw [created?_eq_none (h e List.mem_cons_self), Option.none_or]
    exact ih fun e' mem => h e' (List.mem_cons_of_mem _ mem)

end Event

open Event (latest)

/-- What is stored under a name is a token, up to the deadline. -/
def World.Agrees (w : World) (name : String) (token : Option AccessToken) : Prop :=
  ∀ stored, w.accessTokens.find? name = some stored →
    token.map AccessToken.lasting = some stored.lasting

/-- What is stored agrees with itself. -/
theorem World.agrees_self (w : World) (name : String) :
    w.Agrees name (w.accessTokens.find? name) := by
  intro stored found
  rw [found]
  rfl

namespace Pool

variable {ι α : Type} [DecidableEq ι] {s s' : Pool ι α} {name : String}

/-- What was put in is stored. -/
theorem Step.find?_of_inserted {c : Collection} {i : ι} {object stored : c.Object}
    (step : Step s (.exchange i ⟨.store c (.insert object), .ok stored⟩) s') :
    (s'.world.store c).find? (Stored.name object) = some object := by
  obtain ⟨-, answer, world⟩ := step.calls
  rw [world, World.perform, World.store_withStore]
  cases present : (s.world.store c).find? (Stored.name object) with
  | some old =>
    rw [World.perform, Store.perform_insert_of_taken present] at answer
    cases answer
  | none => rw [Store.perform_insert_of_free present, Store.find?_put, if_pos rfl]

/-- What was put in the place of another is stored. -/
theorem Step.find?_of_replaced {c : Collection} {i : ι} {object stored : c.Object}
    (step : Step s (.exchange i ⟨.store c (.replace object), .ok stored⟩) s') :
    (s'.world.store c).find? (Stored.name object) = some object := by
  obtain ⟨-, answer, world⟩ := step.calls
  rw [world, World.perform, World.store_withStore]
  cases present : (s.world.store c).find? (Stored.name object) with
  | none =>
    rw [World.perform, Store.perform_replace_of_missing present] at answer
    cases answer
  | some old => rw [Store.perform_replace_of_found present, Store.find?_put, if_pos rfl]

/-- Where the token that is stored under a name comes from. -/
theorem Step.of_find? {e : Event ι} (step : Step s e s') {stored : AccessToken}
    (found : s'.world.accessTokens.find? name = some stored) :
    e.created? name = some stored ∨ e.created? name = none ∧
      (s.world.accessTokens.find? name = some stored ∨ ∃ i, e.Writes name i stored) := by
  by_cases inserts : e.Inserts .accessTokens name
  · obtain ⟨i, object, answer, rfl, named⟩ := inserts
    have put := step.find?_of_inserted
    rw [named] at put
    obtain rfl : object = stored := Option.some.inj (put.symm.trans found)
    exact .inl (if_pos named)
  · refine .inr ⟨Event.created?_eq_none inserts, ?_⟩
    have named := Store.name_of_find? found
    cases step with
    | tick clock => exact .inl found
    | @exchange i c next calls =>
      rw [world_advance calls] at found
      obtain same | ⟨op, rfl, store⟩ := s.world.store_perform .accessTokens c
      · exact .inl ((congrArg (·.find? name) same).symm.trans found)
      · replace found := (congrArg (·.find? name) store).symm.trans found
        obtain old | ⟨rfl, free⟩ | ⟨rfl, old, present⟩ := Store.of_find?_perform found
        · exact .inl old
        · have answer := Store.perform_insert_of_free free
          exact absurd ⟨i, stored, stored, congrArg (fun r => Event.exchange i
            ⟨.store .accessTokens (.insert stored), r.1⟩) answer, named⟩ inserts
        · have answer := Store.perform_replace_of_found present
          exact .inr ⟨i, named, stored, congrArg (fun r => Event.exchange i
            ⟨.store .accessTokens (.replace stored), r.1⟩) answer⟩

/-- What is stored agrees with what was last created, if all that was written back did. -/
theorem Run.agrees {es : List (Event ι)} (run : Run s es s') {first : Option AccessToken}
    (begins : s.world.Agrees name first)
    (writes : ∀ before i object e after, es = before ++ e :: after → e.Writes name i object →
      (latest name first before).map AccessToken.lasting = some object.lasting) :
    s'.world.Agrees name (latest name first es) := by
  induction run generalizing first with
  | nil s => exact begins
  | @cons s s₁ s' e es step run ih =>
    refine ih ?_ fun before i object e' after split written => ?_
    · intro stored found
      obtain created | ⟨created, old | ⟨i, written⟩⟩ := step.of_find? found
      · rw [created]
        rfl
      · rw [created, Option.none_or]
        exact begins stored old
      · rw [created, Option.none_or]
        exact writes [] i stored e es rfl written
    · exact writes (e :: before) i object e' after (by rw [split]; rfl) written

/-! ### What is written back -/

section Jobs

variable {jobs : ι → Job} {s₀ s : Pool ι Unit} {es : List (Event ι)}
  (begins : ∀ i, s₀.tasks i = (jobs i).task)
include begins

/-- **An authentication writes back what it has looked up,** with the note of its use. -/
theorem Run.writes_found (run : Run s₀ es s) {before after : List (Event ι)} {e : Event ι} {i : ι}
    {object : AccessToken} (split : es = before ++ e :: after) (written : e.Writes name i object) :
    ∃ found now seconds, ⟨.store .accessTokens (.find name), some found⟩ ∈ dialogue i before ∧
      object = found.used now seconds := by
  rw [split] at run
  obtain ⟨s₁, run₁, run₂⟩ := run.of_append
  obtain ⟨named, answer, rfl⟩ := written
  cases run₂ with
  | cons step run₂ =>
    obtain ⟨⟨next, calls⟩, -⟩ := step.calls
    obtain ⟨timeout, behaves⟩ := (jobs i).behaves
    rw [← begins] at behaves
    have left := behaves.after (run₁.after i)
    rw [calls] at left
    obtain ⟨found, now, seconds, ⟨name', heard⟩, -, -, used⟩ := left.1 object rfl
    rw [List.append_nil, List.mem_reverse] at heard
    have same : Stored.name found = name := by
      rw [← named, used]
      rfl
    rw [← run₁.name_of_found heard, same] at heard
    exact ⟨found, now, seconds, heard, used⟩

/-- What is stored agrees with what was last created, if nothing is created between the lookup of a
token and the note of its use. -/
theorem Run.agrees_of_undisturbed (run : Run s₀ es s)
    (undisturbed : ∀ before i found between object e after,
      es = before ++ .exchange i ⟨.store .accessTokens (.find name), some found⟩ ::
        (between ++ e :: after) →
      e.Writes name i object → ∀ x ∈ between, ¬x.Inserts .accessTokens name) :
    s.world.Agrees name (latest name (s₀.world.accessTokens.find? name) es) := by
  induction length : es.length using Nat.strong_induction_on generalizing es s with
  | _ n ih =>
    refine run.agrees (s₀.world.agrees_self name) ?_
    intro before i object e after split written
    obtain ⟨found, now, seconds, heard, rfl⟩ := run.writes_found begins split written
    obtain ⟨earlier, between, lookup⟩ := List.append_of_mem (mem_dialogue.1 heard)
    rw [lookup, List.append_assoc, List.cons_append] at split
    -- when it was looked up, it agreed
    obtain ⟨s₁, run₁, run₂⟩ := (split ▸ run).of_append
    have agreed := ih earlier.length (by rw [← length, split]; simp) run₁
      (fun before' i' found' between' object' e' after' split' =>
        undisturbed before' i' found' between' object' e'
          (after' ++ .exchange i ⟨.store .accessTokens (.find name), some found⟩ ::
            (between ++ e :: after)) (by rw [split, split']; simp)) rfl
    cases run₂ with
    | cons step run₂ =>
      have agreed := agreed found step.calls.2.1.symm
      -- and nothing was created since
      have none := undisturbed earlier i found between _ e after split written
      rw [lookup, Event.latest_append, AccessToken.lasting_used]
      exact (congrArg (Option.map _) (Event.latest_of_not_inserts none)).trans agreed

/-- **What is stored is what was last created, as long as what is written back is.** Let any number
of authentications, creations and deletions of tokens make their calls in any order. Then the
following are the same: at every moment the token that is stored under a name is the one last
created there, up to its deadline; and whenever the use of a token of that name is noted, what the
authentication had looked up is, up to its deadline, the one last created by then. So it is if
nothing of the name is created between any lookup and the note of the use. A token that is stored at
the beginning counts as created. -/
theorem Run.current (run : Run s₀ es s) (name : String) :
    let first := s₀.world.accessTokens.find? name
    let agrees := ∀ before after s', es = before ++ after → Run s₀ before s' →
      s'.world.Agrees name (latest name first before)
    (agrees ↔ ∀ before i object e after, es = before ++ e :: after → e.Writes name i object →
      ∃ found, ⟨.store .accessTokens (.find name), some found⟩ ∈ dialogue i before ∧
        object.lasting = found.lasting ∧
        (latest name first before).map AccessToken.lasting = some found.lasting) ∧
    ((∀ before i found between object e after,
      es = before ++ .exchange i ⟨.store .accessTokens (.find name), some found⟩ ::
        (between ++ e :: after) →
      e.Writes name i object → ∀ x ∈ between, ¬x.Inserts .accessTokens name) → agrees) := by
  intro first agrees
  refine ⟨⟨fun agree before i object e after split written => ?_, ?_⟩, ?_⟩
  · obtain ⟨found, now, seconds, heard, rfl⟩ := run.writes_found begins split written
    refine ⟨found, heard, rfl, ?_⟩
    -- right after the note, what is stored is what was written
    obtain ⟨named, answer, rfl⟩ := written
    rw [← List.singleton_append, ← List.append_assoc] at split
    obtain ⟨s₂, run₂, -⟩ := (split ▸ run).of_append
    obtain ⟨s₁, -, last⟩ := run₂.of_append
    have agreed := agree _ _ s₂ split run₂
    rw [Event.latest_append] at agreed
    cases last with
    | cons step last =>
      cases last
      have put := step.find?_of_replaced
      rw [named] at put
      exact agreed (found.used now seconds) put
  · intro writes before after s' split run'
    refine run'.agrees (s₀.world.agrees_self name) ?_
    intro before' i object e after' split' written
    obtain ⟨found, -, same, current⟩ :=
      writes before' i object e (after' ++ after) (by rw [split, split']; simp) written
    rw [current, same]
  · intro undisturbed before after s' split run'
    refine run'.agrees_of_undisturbed begins fun before' i found between object e after' split' =>
      undisturbed before' i found between object e (after' ++ after) (by rw [split, split']; simp)

end Jobs

/-- A token of the name `tok`. -/
def tokenOf (userName : String) : AccessToken where
  metadata := { name := "tok", created := some .epoch }
  userName := userName

/-- A token of `alice` is used and deleted, and one of `bob` is created in its place. -/
def contested : Pool (Fin 3) Unit where
  world := ⟨.epoch, Store.put { capacity := 9 } (tokenOf "alice"),
    Store.put { capacity := 9 } { metadata := { name := "alice" } }, []⟩
  tasks := ![(Job.authenticate (some 60) "tok" none).task, (Job.delete "tok").task,
    (Job.create (tokenOf "bob")).task]

/-- The hypotheses of `current` are satisfiable: the use of the token comes first, and then what is
stored is still what was created. -/
theorem Run.current_used :
    ∃ es s, Run contested es s ∧
      s.world.accessTokens.find? "tok" = some ((tokenOf "alice").used .epoch 60) ∧
      s.world.Agrees "tok" (latest "tok" (some (tokenOf "alice")) es) := by
  let es : List (Event (Fin 3)) := [
    .exchange 0 ⟨.store .accessTokens (.find "tok"), some (tokenOf "alice")⟩,
    .exchange 0 ⟨.now, .epoch⟩,
    .exchange 0 ⟨.store .users (.find "alice"), some { metadata := { name := "alice" } }⟩,
    .exchange 0 ⟨.now, .epoch⟩,
    .exchange 0 ⟨.store .accessTokens (.replace ((tokenOf "alice").used .epoch 60)),
      .ok ((tokenOf "alice").used .epoch 60)⟩]
  have run : Run contested es _ := .cons (.exchange rfl) (.cons (.exchange rfl)
    (.cons (.exchange rfl) (.cons (.exchange rfl) (.cons (.exchange rfl) (.nil _)))))
  have quiet (x : Event (Fin 3)) (mem : x ∈ es) : ¬x.Inserts .accessTokens "tok" := by
    rintro ⟨i, object, answer, rfl, -⟩
    simp [es] at mem
  let jobs : Fin 3 → Job :=
    ![.authenticate (some 60) "tok" none, .delete "tok", .create (tokenOf "bob")]
  have begins : ∀ i, contested.tasks i = (jobs i).task
    | 0 => rfl
    | 1 => rfl
    | 2 => rfl
  obtain ⟨-, undisturbed⟩ := run.current begins "tok"
  refine ⟨es, _, run, rfl, undisturbed ?_ es [] _ (List.append_nil es).symm run⟩
  intro before i found between object e after split _ x mem
  exact quiet x (by rw [split]; simp [mem])

/-- Otherwise an update is lost: the token is deleted and another created while the use is still
being checked, and then the use is noted in the one of `alice`, which is stored now. -/
theorem Run.overwritten :
    ∃ es s, Run contested es s ∧
      latest "tok" (some (tokenOf "alice")) es = some (tokenOf "bob") ∧
      s.world.accessTokens.find? "tok" = some ((tokenOf "alice").used .epoch 60) := by
  let es : List (Event (Fin 3)) := [
    .exchange 0 ⟨.store .accessTokens (.find "tok"), some (tokenOf "alice")⟩,
    .exchange 0 ⟨.now, .epoch⟩,
    .exchange 0 ⟨.store .users (.find "alice"), some { metadata := { name := "alice" } }⟩,
    .exchange 1 ⟨.store .accessTokens (.remove "tok"), .ok (tokenOf "alice")⟩,
    .exchange 2 ⟨.now, .epoch⟩,
    .exchange 2 ⟨.store .accessTokens (.checkRoom "tok"), .ok ()⟩,
    .exchange 2 ⟨.store .accessTokens (.insert (tokenOf "bob")), .ok (tokenOf "bob")⟩,
    .exchange 0 ⟨.now, .epoch⟩,
    .exchange 0 ⟨.store .accessTokens (.replace ((tokenOf "alice").used .epoch 60)),
      .ok ((tokenOf "alice").used .epoch 60)⟩]
  have run : Run contested es _ := .cons (.exchange rfl) (.cons (.exchange rfl)
    (.cons (.exchange rfl) (.cons (.exchange rfl) (.cons (.exchange rfl) (.cons (.exchange rfl)
    (.cons (.exchange rfl) (.cons (.exchange rfl) (.cons (.exchange rfl) (.nil _)))))))))
  exact ⟨es, _, run, rfl, rfl⟩

end Pool

end TokenAuthority
