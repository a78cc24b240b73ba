/-
# What is stored and accepted is complete

Whatever requests are made to an application that starts with empty stores, in whatever order they
make their calls, the following holds at every moment (`Pool.Run.stored_complete`):

| of | it holds that |
| --- | --- |
| a stored object | it is under its name, which is not empty, and has a time of creation |
| a stored token | its client, its user and the user's identifier are not empty |
| whom a stored token is accepted for | name and identifier are those of the token and a user |

The first two hold because nothing is put in that something is wrong with, and uses change none of
these fields. For the third, a token and its user are looked up at different moments. But what is
said of the token was true when it was found, and users stay as they are once they are stored.
-/

import Mathlib.Data.Fin.VecNotation
import TokenAuthority.Proofs.Agreement
import TokenAuthority.Proofs.Calls
import TokenAuthority.Proofs.TokenLaw

namespace TokenAuthority

open Http (Request Response)
open Resource (AccessToken User)
open Time (Instant)

/-! ### What is stored -/

/-- What a collection holds of an object is sound, and tells when it was created. -/
structure Collection.IsComplete (c : Collection) (object : c.Object) : Prop where
  sound : c.IsSound object
  created : (Stored.metadata object).created.isSome = true

/-- What is stored of an object without a fault is complete. -/
theorem Collection.isComplete_stamp {c : Collection} {posted : c.Object}
    (faultless : c.fault? posted = none) (now : Instant) :
    c.IsComplete (Stored.stamp posted now) := by
  refine ⟨(isSound_of_fault? faultless).stamp now, ?_⟩
  unfold Stored.stamp
  rw [Stored.metadata_withMetadata]
  rfl

/-- Stored tokens are complete. -/
def TokenLaw.complete : TokenLaw where
  clock _ := True
  token := Collection.accessTokens.IsComplete

/-- The note of a use keeps a token complete. -/
theorem TokenLaw.keptByUse_complete (timeout : Option UInt64) : complete.KeptByUse timeout :=
  fun _ _ _ _ legal _ => ⟨legal.sound, legal.created⟩

namespace App.May

variable {app : App Task} {heard : List Exchange} {call : Call}

/-- A token is put in only if it is complete. -/
theorem admits {answer : call.Answer} (may : app.May heard call) :
    TokenLaw.complete.Admits ⟨call, answer⟩ := by
  rintro object stored made
  obtain ⟨rfl, -⟩ := Exchange.mk.inj made
  cases may with
  | use uses => cases uses
  | insert faultless now => exact Collection.isComplete_stamp faultless now

/-- What may be called leaves users as they are. -/
theorem keeps_users (may : app.May heard call) {w : World} {name : String} {user : User}
    (found : w.users.find? name = some user) :
    (w.perform call).2.users.find? name = some user := by
  obtain same | ⟨op, rfl, store⟩ := w.store_perform .users call
  · exact (congrArg (·.find? name) same).trans found
  · refine (congrArg (·.find? name) store).trans ?_
    cases may with
    | use uses => rwa [Store.perform_of_isQuiet _ uses]
    | @insert _ posted faultless now =>
      cases present : w.users.find? (Stored.name (Stored.stamp posted now)) with
      | some old => rwa [World.store, Store.perform_insert_of_taken present]
      | none =>
        rw [World.store, Store.perform_insert_of_free present, Store.find?_put, if_neg]
        · exact found
        · rintro rfl
          cases found.symm.trans present

/-- A user who is there after a call was there before, or is complete. -/
theorem isComplete_user (may : app.May heard call) {w : World} {name : String} {user : User}
    (found : (w.perform call).2.users.find? name = some user) :
    w.users.find? name = some user ∨ Collection.users.IsComplete user := by
  obtain same | ⟨op, rfl, store⟩ := w.store_perform .users call
  · exact .inl ((congrArg (·.find? name) same).symm.trans found)
  · replace found := (congrArg (·.find? name) store).symm.trans found
    obtain old | ⟨rfl, -⟩ | ⟨rfl, -⟩ := Store.of_find?_perform found
    · exact .inl old
    · cases may with
      | use uses => cases uses
      | insert faultless now => exact .inr (Collection.isComplete_stamp faultless now)
    · cases may with
      | use uses => cases uses

end App.May

namespace Pool

variable {ι α : Type} [DecidableEq ι] {s s' : Pool ι α} {es : List (Event ι)}

/-- What was found was there at that moment. -/
theorem Run.exists_of_found (run : Run s es s') {i : ι} {c : Collection} {name : String}
    {object : c.Object} (found : ⟨.store c (.find name), some object⟩ ∈ dialogue i es) :
    ∃ before after s₁, es = before ++ after ∧ Run s before s₁ ∧ Run s₁ after s' ∧
      (s₁.world.store c).find? name = some object := by
  obtain ⟨before, after, rfl⟩ := List.append_of_mem (mem_dialogue.1 found)
  obtain ⟨s₁, run₁, run₂⟩ := run.of_append
  refine ⟨before, _, s₁, rfl, run₁, run₂, ?_⟩
  cases run₂ with
  | cons step run₂ => exact step.calls.2.1.symm

section Users

variable {app : App Task}
  (may : ∀ i x, .exchange i x ∈ es → ∃ heard, app.May heard x.call)
include may

/-- **Users stay as they are.** -/
theorem Run.keeps_users (run : Run s es s') {name : String} {user : User}
    (found : s.world.users.find? name = some user) :
    s'.world.users.find? name = some user := by
  induction run with
  | nil s => exact found
  | cons step run ih =>
    refine ih (fun i x mem => may i x (List.mem_cons_of_mem _ mem)) ?_
    cases step with
    | tick clock => exact found
    | exchange calls =>
      obtain ⟨heard, may⟩ := may _ _ List.mem_cons_self
      rw [world_advance calls]
      exact may.keeps_users found

/-- Users are stored complete, if they were so at the beginning. -/
theorem Run.isComplete_user (run : Run s es s')
    (begins : ∀ name user, s.world.users.find? name = some user →
      Collection.users.IsComplete user) {name : String} {user : User}
    (found : s'.world.users.find? name = some user) : Collection.users.IsComplete user := by
  induction run with
  | nil s => exact begins name user found
  | cons step run ih =>
    refine ih (fun i x mem => may i x (List.mem_cons_of_mem _ mem)) (fun name user found => ?_)
      found
    cases step with
    | tick clock => exact begins name user found
    | exchange calls =>
      obtain ⟨heard, may⟩ := may _ _ List.mem_cons_self
      rw [world_advance calls] at found
      exact (may.isComplete_user found).elim (begins name user) id

end Users

end Pool

/-! ### Whom stored tokens are accepted for -/

namespace Exchange

/-- In what was heard, a token was looked up by its name and found, and so was its user, and someone
is whom the token stands for. -/
structure Identifies (heard : List Exchange) (name : String) (someone : Identity)
    (stored : AccessToken) (user : User) : Prop where
  token : ⟨.store .accessTokens (.find name), some stored⟩ ∈ heard
  holder : ⟨.store .users (.find stored.userName), some user⟩ ∈ heard
  identifier : user.identifier = stored.userUid
  identity : someone = stored.identity user

/-- Whoever was identified stays so, whatever else is heard. -/
theorem Identifies.mono {heard later : List Exchange} {name : String} {someone : Identity}
    {stored : AccessToken} {user : User} (identifies : Identifies heard name someone stored user)
    (more : heard ⊆ later) : Identifies later name someone stored user where
  token := more identifies.token
  holder := more identifies.holder
  identifier := identifies.identifier
  identity := identifies.identity

/-- Someone has a name and an identifier, which the token had that was looked up by a name when it
was found, and which a stored user has. -/
structure Recognizes (heard : List Exchange) (w : World) (name : String) (someone : Identity)
    (stored : AccessToken) (user : User) : Prop where
  token : ⟨.store .accessTokens (.find name), some stored⟩ ∈ heard
  holder : w.users.find? someone.name = some user
  named : someone.name ≠ ""
  identified : someone.uid ≠ ""
  tokenName : stored.userName = someone.name
  tokenUid : stored.userUid = someone.uid
  userUid : user.metadata.uid = some someone.uid

/-- Whoever is identified by a sound token of a user who is still stored is recognized. -/
theorem Identifies.recognizes {heard : List Exchange} {w : World} {name : String}
    {someone : Identity} {stored : AccessToken} {user : User}
    (identifies : Identifies heard name someone stored user)
    (sound : Collection.accessTokens.IsSound stored)
    (found : w.users.find? stored.userName = some user) :
    Recognizes heard w name someone stored user := by
  obtain ⟨token, -, identifier, rfl⟩ := identifies
  obtain ⟨-, -, named, identified⟩ := sound
  have holder : (stored.identity user).name = stored.userName := Store.name_of_find? found
  have uid : (stored.identity user).uid = stored.userUid := identifier
  refine ⟨token, by rwa [holder], by rwa [holder], by rwa [uid], holder.symm, uid.symm, ?_⟩
  rw [uid]
  unfold User.identifier at identifier
  cases isUid : user.metadata.uid with
  | none =>
    rw [isUid] at identifier
    exact absurd identifier.symm identified
  | some uid =>
    rw [isUid] at identifier
    exact congrArg some identifier

/-- Whoever a verdict accepts was identified in what was heard, by the token of a name. -/
def Justifies (name : String) (heard : List Exchange) (verdict : Verdict) : Prop :=
  ∀ accepted, verdict = .ok (some accepted) →
    ∃ stored user, Identifies heard name accepted.user stored user

/-- Whoever a verdict accepts was identified in what was heard, by the token that some credentials
carry. -/
def JustifiesFor (credentials : Credentials) (heard : List Exchange) (verdict : Verdict) : Prop :=
  ∀ accepted, verdict = .ok (some accepted) → ∃ name stored user,
    credentials.tokenName? = some name ∧ Identifies heard name accepted.user stored user

end Exchange

open Exchange (Identifies Justifies JustifiesFor)

namespace TokenAuthenticator

variable {heard : List Exchange} {timeout : Option UInt64} {token name : String}
  {audiences : Option Audiences}

/-- The check of the user of a token that was found justifies whom it accepts. -/
theorem justifies_checkUser {stored : AccessToken}
    (found : ⟨.store .accessTokens (.find name), some stored⟩ ∈ heard) :
    (checkUser stored timeout : Task Verdict).Yields (Justifies name) heard := by
  rintro (_ | user)
  · rintro accepted ⟨⟩
  · have looked : (⟨.store .users (.find stored.userName), some user⟩ : Exchange) ∈
        ⟨.store .users (.find stored.userName), some user⟩ :: heard := List.mem_cons_self
    dsimp only [Task.done_bind]
    split
    · rintro answer accepted ⟨⟩
    · rename_i same
      have identifies :
          Identifies (⟨.store .users (.find stored.userName), some user⟩ :: heard) name
            (stored.identity user) stored user :=
        ⟨List.mem_cons_of_mem _ found, looked, not_not.1 same, rfl⟩
      cases timeout with
      | none =>
        rintro accepted ⟨⟩
        exact ⟨stored, user, identifies⟩
      | some seconds =>
        rintro now (e | written)
        · rintro accepted ⟨⟩
        · rintro accepted ⟨⟩
          exact ⟨stored, user, identifies.mono fun x mem =>
            List.mem_cons_of_mem _ (List.mem_cons_of_mem _ mem)⟩

/-- **Whoever a stored token is accepted for was looked up by it.** -/
theorem justifies_accessTokens :
    (accessTokens timeout token audiences : Task Verdict).Yields
      (Justifies (TokenName.ofToken token)) heard := by
  rw [accessTokens_eq]
  rintro (_ | stored)
  · rintro accepted ⟨⟩
  · intro now
    dsimp only
    rcases stored.inForce? now with _ | _ | ⟨⟩
    · trivial
    · rintro accepted ⟨⟩
    · exact justifies_checkUser (List.mem_cons_of_mem _ List.mem_cons_self)

/-- What is justified stays so behind a check of the audiences. -/
theorem justifies_audienceAgnostic {delegate : TokenAuthenticator Task}
    (h : (delegate token none).Yields (Justifies name) heard) (own : Audiences) :
    (audienceAgnostic own delegate token audiences).Yields (Justifies name) heard := by
  unfold audienceAgnostic
  dsimp only
  split
  · exact h
  · split
    · rintro accepted ⟨⟩
    · refine h.bind fun heard verdict justifies accepted said => ?_
      rcases verdict with e | _ | delegated <;> cases said
      exact justifies delegated rfl

end TokenAuthenticator

/-- A reader of header fields is justified by the token that it reads. -/
theorem RequestAuthenticator.justifies_bearer {heard : List Exchange}
    {delegate : TokenAuthenticator Task} {credentials : Credentials}
    (h : ∀ token, (Http.Header.first? credentials.headers Bearer.fieldName).bind
      (Bearer.token? ·.value) = some token →
        (delegate (String.ofList token) credentials.audiences).Yields
          (Justifies (TokenName.ofToken (String.ofList token))) heard) :
    (bearer delegate credentials).Yields (JustifiesFor credentials) heard := by
  unfold bearer
  split
  · rintro accepted ⟨⟩
  · rintro accepted ⟨⟩
  · rename_i token _ carried
    refine (h token carried).mono fun heard verdict justifies accepted said => ?_
    obtain ⟨stored, user, identifies⟩ := justifies accepted said
    refine ⟨_, stored, user, ?_, identifies⟩
    rw [Credentials.tokenName?, carried]
    rfl

namespace App

/-- Someone is accepted by a stored token in what a request has heard: the caller, whose token is
not configured, or whoever the token stands for that is under review by the stored ones. The token
is in the credentials, and the part of what was heard is that of the authenticator. -/
inductive AcceptsStored (app : App Task) (settings : Settings) (tokens : List StaticToken)
    (request : Request) (heard : List Exchange) (accepted : Accepted) :
    Credentials → List Exchange → Prop where
  | caller {before after : List Exchange} (split : heard = before ++ after)
      (unlisted : ∀ token, (Http.Header.first? request.headers Bearer.fieldName).bind
        (Bearer.token? ·.value) = some token → ∀ entry ∈ tokens, entry.token ≠ String.ofList token)
      (accepts : (app.authenticator { headers := request.headers }).After before
        (.done (.ok (some accepted)))) :
      AcceptsStored app settings tokens request heard accepted { headers := request.headers } before
  | reviewed {authenticate : Credentials → Task Timed} {credentials : Credentials} {answer : Timed}
      {before during after : List Exchange}
      (backend : settings.tokenReview.backend = .accessTokens)
      (configured : app.reviewer.authenticator = some authenticate)
      (split : heard = before ++ (during ++ after))
      (ends : (authenticate credentials).After during (.done answer))
      (accepts : answer.verdict = .ok (some accepted)) :
      AcceptsStored app settings tokens request heard accepted credentials during

/-- What an authenticator has heard is part of what its request has heard. -/
theorem AcceptsStored.subset {app : App Task} {settings : Settings} {tokens : List StaticToken}
    {request : Request} {heard own : List Exchange} {accepted : Accepted}
    {credentials : Credentials}
    (accepts : app.AcceptsStored settings tokens request heard accepted credentials own) :
    own ⊆ heard := by
  cases accepts with
  | caller split => exact split ▸ List.subset_append_left _ _
  | reviewed _ _ split =>
    exact split ▸ List.subset_append_of_subset_right _ (List.subset_append_left _ _)

section Assembled

variable {settings : Settings} {tokens : List StaticToken} {policy : List PolicyRule}
  {post : Webhook.Transport Task} {configuration : String → ExceptT String Task (Option String)}
  {app : App Task} {w w' : World}
  (assembled : (assemble settings tokens policy post configuration).run w = (some (.ok app), w'))
include assembled

/-- **Whoever is accepted by a stored token was looked up by it,** and the one who did that was the
authenticator that accepts. -/
theorem AcceptsStored.identifies {request : Request} {heard own : List Exchange}
    {accepted : Accepted} {credentials : Credentials}
    (accepts : app.AcceptsStored settings tokens request heard accepted credentials own) :
    ∃ name stored user, credentials.tokenName? = some name ∧
      Identifies own name accepted.user stored user := by
  cases accepts with
  | caller split unlisted accepts =>
    have justifies : (app.authenticator { headers := request.headers }).Yields
        (JustifiesFor { headers := request.headers }) [] := by
      obtain ⟨review, rfl, -⟩ := exists_parts_of_assemble assembled
      refine RequestAuthenticator.justifies_bearer fun token carried => ?_
      rw [TokenAuthenticator.union_static _ _ (unlisted token carried)]
      exact TokenAuthenticator.justifies_accessTokens
    obtain ⟨name, stored, user, carried, identifies⟩ := justifies.after accepts accepted rfl
    refine ⟨name, stored, user, carried, identifies.mono fun x mem => ?_⟩
    rwa [List.append_nil, List.mem_reverse] at mem
  | @reviewed authenticate credentials answer before during after backend configured split ends
      accepts =>
    have justifies : (authenticate credentials).Yields (fun heard answer =>
        JustifiesFor credentials heard answer.verdict) [] := by
      obtain ⟨-, reviewer⟩ := parts_of_assemble_accessTokens assembled backend
      rw [reviewer] at configured
      obtain rfl := Option.some.inj configured
      refine Task.Yields.bind (RequestAuthenticator.justifies_bearer fun token _ => ?_)
        fun heard verdict justifies => justifies
      exact TokenAuthenticator.justifies_audienceAgnostic
        TokenAuthenticator.justifies_accessTokens _
    obtain ⟨name, stored, user, carried, identifies⟩ := justifies.after ends accepted accepts
    refine ⟨name, stored, user, carried, identifies.mono fun x mem => ?_⟩
    rwa [List.append_nil, List.mem_reverse] at mem

end Assembled

end App

namespace Pool

variable {ι : Type} [DecidableEq ι]

/-- **What is stored and accepted is complete.** Let an application be assembled from any settings,
and let any number of requests, of whatever kind, be made to it when nothing is stored, and make
their calls in any order. Then at every moment each stored object is under its own name, which is
not empty, and has a time of creation, and each stored token has a client, a user and a user's
identifier that are not empty. Whoever has been accepted by a stored token by then, as a caller or
under review, has the name and the identifier that the token had which the authenticator looked up
by what the credentials carry, and they are those of a stored user, too. So a user without an
identifier is never accepted. -/
theorem Run.stored_complete {settings : Settings} {tokens : List StaticToken}
    {policy : List PolicyRule} {post : Webhook.Transport Task}
    {configuration : String → ExceptT String Task (Option String)} {app : App Task} {w w' : World}
    (assembled : (App.assemble settings tokens policy post configuration).run w =
      (some (.ok app), w'))
    (inert : ∀ url seconds review, ∃ reply, post url seconds review = .done reply)
    {requests : ι → Request} {s₀ s : Pool ι Response} {es : List (Event ι)}
    (begins : ∀ i, s₀.tasks i = app.answer (requests i)) (run : Run s₀ es s)
    (empty : ∀ (c : Collection) name, (s₀.world.store c).find? name = none) :
    (∀ (c : Collection) name object, (s.world.store c).find? name = some object →
      Stored.name object = name ∧ name ≠ "" ∧ c.IsComplete object) ∧
    (∀ i accepted credentials own,
      app.AcceptsStored settings tokens (requests i) (dialogue i es) accepted credentials own →
      ∃ name stored user, credentials.tokenName? = some name ∧
        Exchange.Recognizes own s.world name accepted.user stored user) ∧
    ∀ name user, s.world.users.find? name = some user → user.metadata.uid.getD "" = "" →
      ∀ i accepted credentials own,
        app.AcceptsStored settings tokens (requests i) (dialogue i es) accepted credentials own →
        accepted.user.name ≠ name := by
  have may {i : ι} {x : Exchange} (mem : .exchange i x ∈ es) : ∃ heard, app.May heard x.call := by
    obtain ⟨before, after, split⟩ := List.append_of_mem mem
    refine ⟨_, run.wanted ?_ split⟩
    rw [begins]
    exact App.makes_answer (App.partsNote_of_assemble assembled inert) (requests i)
  -- at every moment tokens are complete
  have tokens_complete {before after : List (Event ι)} {s₁ : Pool ι Response}
      (split : es = before ++ after) (run₁ : Run s₀ before s₁) {name : String}
      {stored : AccessToken} (found : s₁.world.accessTokens.find? name = some stored) :
      Collection.accessTokens.IsComplete stored := by
    obtain ⟨holds, -⟩ := run₁.requests_underLaw assembled inert begins
      (TokenLaw.keptByUse_complete _)
      ⟨trivial, fun name stored found => nomatch found.symm.trans (empty .accessTokens name)⟩
      (fun _ _ => trivial) fun i x mem => by
        obtain ⟨heard, may⟩ := may (split ▸ List.mem_append_left after mem)
        exact may.admits
    exact holds.token name stored found
  have recognized {i : ι} {accepted : Accepted} {credentials : Credentials} {own : List Exchange}
      (accepts : app.AcceptsStored settings tokens (requests i) (dialogue i es) accepted
        credentials own) :
      ∃ name stored user, credentials.tokenName? = some name ∧
        Exchange.Recognizes own s.world name accepted.user stored user := by
    obtain ⟨name, stored, user, carried, identifies⟩ := accepts.identifies assembled
    obtain ⟨before, after, s₁, split, run₁, -, present⟩ :=
      run.exists_of_found (accepts.subset identifies.token)
    obtain ⟨before', after', s₂, split', -, rest, known⟩ :=
      run.exists_of_found (accepts.subset identifies.holder)
    refine ⟨name, stored, user, carried,
      identifies.recognizes (tokens_complete split run₁ present).sound ?_⟩
    exact rest.keeps_users (fun i x mem => may (split' ▸ List.mem_append_right _ mem)) known
  refine ⟨fun c name object found => ?_, fun _ _ _ _ accepts => recognized accepts,
    fun name user found anonymous i accepted credentials own accepts same => ?_⟩
  · have named := Store.name_of_find? found
    have isComplete : c.IsComplete object := by
      cases c with
      | accessTokens => exact tokens_complete (List.append_nil es).symm run found
      | users =>
        exact run.isComplete_user (fun i x mem => may mem)
          (fun name user found => nomatch found.symm.trans (empty .users name)) found
    exact ⟨named, named ▸ isComplete.sound.named, isComplete⟩
  · obtain ⟨_, stored, user', -, recognizes⟩ := recognized accepts
    obtain rfl : user' = user :=
      Option.some.inj (recognizes.holder.symm.trans (same ▸ found))
    rw [recognizes.userUid] at anonymous
    exact recognizes.identified anonymous

/-- What a request for a protected route does first is to authenticate its caller. -/
theorem exists_answer_eq_bind (app : App Task) {request : Request} {route : Server.Route}
    (matched : Server.Route.ofPath request.path = some route) (guarded : route.isProtected = true)
    (carries : (Http.Header.first? request.headers Bearer.fieldName).isNone = false) :
    ∃ next, app.answer request =
      (app.authenticator { headers := request.headers }).bind next := by
  rw [App.answer_eq app matched guarded]
  unfold App.screen App.authenticate
  dsimp only
  rw [if_neg (Bool.eq_false_iff.1 carries)]
  simp only [Task.bind_eq, Task.bind_assoc]
  exact ⟨_, rfl⟩

/-- The hypotheses of `stored_complete` are satisfiable: the user `alice` and a token of hers are
posted, and then she is recognized by the token. -/
theorem Run.stored_complete_alice :
    let name := "0123456789abcdef0123456789abcdef"
    let app := App.selfContained {} [.admin] [.adminRules]
    let requests : Fin 3 → Request := ![.postAlice, .postToken name none 60, .getAlice name]
    let credentials : Credentials := { headers := (requests 2).headers }
    ∃ es s accepted own, Run ⟨World.ofSettings {} .epoch, fun i => app.answer (requests i)⟩ es s ∧
      app.AcceptsStored {} [.admin] (requests 2) (dialogue 2 es) accepted credentials own ∧
      accepted.user.name = "alice" ∧
      ∃ stored user, Exchange.Recognizes own s.world name accepted.user stored user := by
  intro name app requests credentials
  let w := World.ofSettings {} .epoch
  let s₀ : Pool (Fin 3) Response := ⟨w, fun i => app.answer (requests i)⟩
  obtain ⟨w', assembled⟩ := App.run_assemble_selfContained (s := {}) rfl (by decide +kernel)
    [.admin] [.adminRules] (fun _ _ _ => .done none) w
  -- the requests are worked on one after the other
  obtain ⟨first, ran₁⟩ : ∃ ended, (app.answer (requests 0)).run w = ended := ⟨_, rfl⟩
  obtain ⟨second, ran₂⟩ : ∃ ended, (app.answer (requests 1)).run first.2 = ended := ⟨_, rfl⟩
  obtain ⟨third, ran₃⟩ : ∃ ended, (app.authenticator credentials).run second.2 = ended := ⟨_, rfl⟩
  have told : first.1.isSome = true ∧ second.1.isSome = true ∧
      third.1.bind Verdict.user? = some { name := "alice", uid := "u1" } := by
    rw [← ran₃, ← ran₂, ← ran₁]
    decide +kernel
  obtain ⟨answered₁, answered₂, known⟩ := told
  obtain ⟨response₁, isFirst⟩ := Option.isSome_iff_exists.1 answered₁
  obtain ⟨response₂, isSecond⟩ := Option.isSome_iff_exists.1 answered₂
  obtain ⟨verdict, isThird, user⟩ := Option.bind_eq_some_iff.1 known
  obtain ⟨accepted, rfl, isAlice⟩ := Verdict.exists_of_user? user
  obtain ⟨es₁, s₁, run₁, -, stands₁, -, others₁⟩ :=
    exists_run_of_run (s := s₀) (Task.bind_done _).symm ran₁ isFirst
  rw [← stands₁] at ran₂
  obtain ⟨es₂, s₂, run₂, -, stands₂, -, others₂⟩ := exists_run_of_run
    ((others₁ 1 (by decide)).1.trans (Task.bind_done (app.answer (requests 1))).symm) ran₂ isSecond
  rw [← stands₂] at ran₃
  have matched : Server.Route.ofPath (requests 2).path = some (.user "alice") := by decide
  have carries : (Http.Header.first? (requests 2).headers Bearer.fieldName).isNone = false := by
    decide +kernel
  obtain ⟨next, authenticates⟩ := exists_answer_eq_bind app matched rfl carries
  have waits : s₂.tasks 2 = (app.authenticator credentials).bind next :=
    (others₂ 2 (by decide)).1.trans ((others₁ 2 (by decide)).1.trans authenticates)
  obtain ⟨es₃, s₃, run₃, hears, -⟩ := exists_run_of_run waits ran₃ isThird
  have run := run₁.append (run₂.append run₃)
  have told : dialogue 2 (es₁ ++ (es₂ ++ es₃)) = dialogue 2 es₃ ++ [] := by
    rw [dialogue_append, dialogue_append, (others₁ 2 (by decide)).2, (others₂ 2 (by decide)).2,
      List.append_nil, List.nil_append, List.nil_append]
  have carried : (Http.Header.first? (requests 2).headers Bearer.fieldName).bind
      (Bearer.token? ·.value) = some name.toList := by decide +kernel
  have accepts : app.AcceptsStored {} [.admin] (requests 2) (dialogue 2 (es₁ ++ (es₂ ++ es₃)))
      accepted credentials (dialogue 2 es₃) := by
    refine .caller told (fun token isCarried entry mem => ?_) hears
    obtain rfl := Option.some.inj (carried.symm.trans isCarried)
    obtain rfl := List.mem_singleton.1 mem
    decide
  obtain ⟨-, recognized, -⟩ := run.stored_complete assembled (fun _ _ _ => ⟨_, rfl⟩) (fun _ => rfl)
    fun c name => by cases c <;> rfl
  obtain ⟨named, stored, user, isNamed, recognizes⟩ := recognized 2 accepted credentials _ accepts
  have presented : credentials.tokenName? = some name := by decide +kernel
  obtain rfl : name = named := Option.some.inj (presented.symm.trans isNamed)
  exact ⟨_, s₃, accepted, _, run, accepts, by rw [isAlice], stored, user, recognizes⟩

end Pool

end TokenAuthority
