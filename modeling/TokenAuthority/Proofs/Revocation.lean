/-
# Revocation among other requests

Once an access token is deleted it stays away until it is created again, whatever other requests do
meanwhile and in which order: an object comes into a store only by an insertion
(`Pool.Run.find?_eq_none`), and the use of a token is noted in the place of the stored one. A bearer
token whose object is away is not accepted (`Pool.Run.revoked`):

| an authentication that | ends with |
| --- | --- |
| looks the token up while it is away | nothing to say |
| looked it up before and notes the use while it is away | `notFound` |
-/

import Mathlib.Data.Fin.VecNotation
import TokenAuthority.Authentication.AccessTokens
import TokenAuthority.Proofs.Frame
import TokenAuthority.Proofs.Interleaving

namespace TokenAuthority

open Resource (AccessToken)

/-- A name that is free stays so, unless an object is put in under it. -/
theorem Store.find?_perform_of_none {α : Type} [Stored α] {s : Store α} {name : String}
    (absent : s.find? name = none) {op : Store.Call α}
    (keeps : ∀ object, op = .insert object → Stored.name object ≠ name) :
    (s.perform op).2.find? name = none := by
  cases op with
  | find n => exact absent
  | checkRoom n => rw [perform_checkRoom_store, absent]
  | health => rw [perform_health_store, absent]
  | insert o =>
    cases found : s.find? (Stored.name o) with
    | some old => rw [perform_insert_of_taken found, absent]
    | none =>
      rw [perform_insert_of_free found, find?_put, if_neg (Ne.symm (keeps o rfl)), absent]
  | replace o =>
    cases found : s.find? (Stored.name o) with
    | none => rw [perform_replace_of_missing found, absent]
    | some old =>
      have other : name ≠ Stored.name o := by
        rintro rfl
        simp [absent] at found
      rw [perform_replace_of_found found, find?_put, if_neg other, absent]
  | remove n =>
    cases found : s.find? n with
    | none => rw [perform_remove_of_missing found, absent]
    | some old => rw [perform_remove_of_found found, find?_drop, absent, ite_self]

/-- An object of a name is put into a collection. -/
def Event.Inserts {ι : Type} (c : Collection) (name : String) (e : Event ι) : Prop :=
  ∃ i object stored, e = .exchange i ⟨.store c (.insert object), .ok stored⟩ ∧
    Stored.name object = name

namespace Pool

variable {ι α : Type} [DecidableEq ι] {s s' : Pool ι α} {c : Collection} {name : String}

/-- A name that is free stays so in an event that puts nothing in under it. -/
theorem Step.find?_eq_none {e : Event ι} (step : Step s e s')
    (absent : (s.world.store c).find? name = none) (noInsertion : ¬e.Inserts c name) :
    (s'.world.store c).find? name = none := by
  cases step with
  | tick clock => cases c <;> exact absent
  | @exchange i call next calls =>
    rw [world_advance calls]
    obtain same | ⟨op, rfl, store⟩ := s.world.store_perform c call
    · rw [same, absent]
    · rw [store]
      refine Store.find?_perform_of_none absent ?_
      rintro object rfl named
      refine noInsertion ⟨i, object, object, ?_, named⟩
      have free : (s.world.store c).find? (Stored.name object) = none := by rw [named, absent]
      have answer := congrArg Prod.fst (Store.perform_insert_of_free free)
      exact congrArg (fun a => Event.exchange i ⟨.store c (.insert object), a⟩) answer

/-- **What is away stays away until it is put in.** -/
theorem Run.find?_eq_none {es : List (Event ι)} (run : Run s es s')
    (absent : (s.world.store c).find? name = none) (noInsertion : ∀ e ∈ es, ¬e.Inserts c name) :
    (s'.world.store c).find? name = none := by
  induction run with
  | nil s => exact absent
  | cons step run ih =>
    have first := step.find?_eq_none absent (noInsertion _ List.mem_cons_self)
    exact ih first fun e mem => noInsertion e (List.mem_cons_of_mem _ mem)

/-- A name is free when its object was taken out. -/
theorem Step.find?_of_removed {i : ι} {object : c.Object}
    (step : Step s (.exchange i ⟨.store c (.remove name), .ok object⟩) s') :
    (s'.world.store c).find? name = none := by
  obtain ⟨-, -, world⟩ := step.calls
  rw [world, World.perform, World.store_withStore]
  cases found : (s.world.store c).find? name with
  | none => rw [Store.perform_remove_of_missing found, found]
  | some old => rw [Store.perform_remove_of_found found, Store.find?_drop, if_pos rfl]

end Pool

namespace TokenAuthenticator

/-- The check of the user replaces the token that it checks, and fails when the store does. -/
theorem after_checkUser {token : AccessToken} {timeout : Option UInt64} {heard : List Exchange}
    {object : AccessToken} {next : Except StoreError AccessToken → Task Verdict}
    (after : Task.After (checkUser token timeout) heard
      (.call (.store .accessTokens (.replace object)) next)) :
    Stored.name object = Stored.name token ∧ ∀ e, next (.error e) = .done (.error (.store e)) := by
  rcases after with _ | @⟨_, _, user, _, _, after⟩
  cases user with
  | none => cases after
  | some user =>
    dsimp only [Task.done_bind] at after
    split at after
    · rcases after with _ | after
      cases after
    · cases timeout with
      | none => cases after
      | some timeout =>
        rcases after with _ | @⟨_, _, now, _, _, after⟩
        cases after with
        | nothing => exact ⟨rfl, fun e => rfl⟩
        | @heard _ _ answer _ _ after =>
        rcases answer <;> cases after

/-- An authentication that is about to note a use has found the token that it notes it in, and fails
if the use cannot be noted. -/
theorem after_accessTokens {timeout : Option UInt64} {token : String}
    {audiences : Option Audiences} {heard : List Exchange} {object : AccessToken}
    {next : Except StoreError AccessToken → Task Verdict}
    (after : Task.After (accessTokens timeout token audiences) heard
      (.call (.store .accessTokens (.replace object)) next)) :
    (∃ stored, ⟨.store .accessTokens (.find (TokenName.ofToken token)), some stored⟩ ∈ heard ∧
      Stored.name object = Stored.name stored) ∧
      ∀ e, next (.error e) = .done (.error (.store e)) := by
  rcases after with _ | @⟨_, _, stored, later, _, after⟩
  cases stored with
  | none => cases after
  | some stored =>
    rcases after with _ | @⟨_, _, now, _, _, after⟩
    dsimp only [Task.done_bind] at after
    rcases expired : stored.isExpired? now with _ | _ | _ <;> rw [expired] at after
    · cases after
    · rcases timedOut : stored.isTimedOut? now with _ | _ | _ <;>
        simp only [timedOut, Backend.orAbandon] at after
      · cases after
      · obtain ⟨name, fails⟩ := after_checkUser after
        exact ⟨⟨stored, List.mem_cons_self, name⟩, fails⟩
      · cases after
    · cases after
end TokenAuthenticator

namespace Pool

open TokenAuthenticator (accessTokens)

variable {ι α : Type} [DecidableEq ι]

/-- **A deleted token is not accepted until it is created again.** Whatever requests there are and
however their calls interleave, after the deletion of `name` and as long as it is not put in again:
`name` is away; a request that goes on with an authentication of a bearer token of that name is told
by its next call, the lookup, that there is nothing to say; and one that was about to authenticate
such a token at the beginning, whose next call is now to note the use, is told that this failed. The
beginning `s₀` may be any moment before the deletion. -/
theorem Run.revoked {s₀ s : Pool ι α} {es before period : List (Event ι)} {deleter : ι}
    {name : String} {deleted : AccessToken} (run : Run s₀ es s)
    (deletion : es = before ++
      .exchange deleter ⟨.store .accessTokens (.remove name), .ok deleted⟩ :: period)
    (noInsertion : ∀ e ∈ period, ¬e.Inserts .accessTokens name) :
    s.world.accessTokens.find? name = none ∧
      (∀ i timeout token audiences (k : Verdict → Task α), TokenName.ofToken token = name →
        s.tasks i = accessTokens timeout token audiences >>= k →
        (s.advance i).tasks i = k (.ok none)) ∧
      ∀ i timeout token audiences (k : Verdict → Task α) object next,
        TokenName.ofToken token = name →
        s₀.tasks i = accessTokens (some timeout) token audiences >>= k →
        Task.After (accessTokens (some timeout) token audiences) (dialogue i es)
          (.call (.store .accessTokens (.replace object)) next) →
        (s.advance i).tasks i = k (.error (.store (.notFound Resource.accessTokens name))) := by
  have absent : s.world.accessTokens.find? name = none := by
    rw [deletion] at run
    obtain ⟨s₁, -, run⟩ := run.of_append
    cases run with
    | cons step run => exact run.find?_eq_none (c := .accessTokens) step.find?_of_removed noInsertion
  refine ⟨absent, ?_, ?_⟩
  · rintro i timeout token audiences k rfl begins
    have lookup : (s.world.perform (.store .accessTokens (.find (TokenName.ofToken token)))).1 =
        none := absent
    rw [tasks_advance begins, lookup]
    rfl
  · rintro i timeout token audiences k object next rfl began after
    -- what was found bears the name, so the use would be noted under it
    have left := run.tasks_of_after began after
    obtain ⟨⟨stored, found, name⟩, fails⟩ := TokenAuthenticator.after_accessTokens after
    rw [run.name_of_found found] at name
    have refused : (s.world.perform (.store .accessTokens (.replace object))).1 =
        .error (.notFound Resource.accessTokens (TokenName.ofToken token)) := by
      rw [← name] at absent ⊢
      exact congrArg Prod.fst (Store.perform_replace_of_missing absent)
    rw [tasks_advance left, refused, fails]
    rfl

/-- The hypotheses of `revoked` are satisfiable: of three requests, the first has checked a token
when the second deletes it, and the third comes with it then. -/
theorem Run.revoked_between :
    let stored : AccessToken := { metadata := { name := "tok" }, userName := "alice" }
    let alice : Resource.User := { metadata := { name := "alice" } }
    let use : Task Verdict := accessTokens (some 60) "tok" none >>= pure
    let s₀ : Pool (Fin 3) Verdict := {
      world := ⟨.epoch, Store.put { capacity := 9 } stored, Store.put { capacity := 9 } alice, []⟩
      tasks := ![use, Backend.remove .accessTokens "tok" >>= fun _ => pure (.ok none), use] }
    ∃ es s, Run s₀ es s ∧ (s.advance 2).tasks 2 = pure (.ok none) ∧
      (s.advance 0).tasks 0 =
        pure (.error (.store (.notFound Resource.accessTokens "tok"))) := by
  intro stored alice use s₀
  let checked : List (Event (Fin 3)) := [
    .exchange 0 ⟨.store .accessTokens (.find "tok"), some stored⟩,
    .exchange 0 ⟨.now, .epoch⟩,
    .exchange 0 ⟨.store .users (.find "alice"), some alice⟩,
    .exchange 0 ⟨.now, .epoch⟩]
  let deletion : Event (Fin 3) :=
    .exchange 1 ⟨.store .accessTokens (.remove "tok"), .ok stored⟩
  have run : Run s₀ (checked ++ [deletion])
      ((((((s₀.advance 0).advance 0).advance 0).advance 0)).advance 1) :=
    .cons (.exchange rfl) (.cons (.exchange rfl) (.cons (.exchange rfl) (.cons (.exchange rfl)
      (.cons (.exchange rfl) (.nil _)))))
  obtain ⟨next, after⟩ : ∃ next, Task.After (accessTokens (some 60) "tok" none)
      (dialogue 0 (checked ++ [deletion]))
      (.call (.store .accessTokens (.replace (stored.used .epoch 60))) next) :=
    ⟨_, .heard (.heard (.heard (.heard (.nothing _))))⟩
  obtain ⟨-, looked, noted⟩ := run.revoked rfl (by simp)
  exact ⟨_, _, run, looked 2 (some 60) "tok" none pure rfl rfl,
    noted 0 60 "tok" none pure _ _ rfl rfl after⟩

end Pool

end TokenAuthority
