/-
# How long an issued token lives

A token that is posted with a lifetime is stored with the time `t` at which it was put in, unless
the body says when it was created. Whatever requests follow, no use of the token changes that time
or the lifetime, so it is not accepted any more when the lifetime has passed since then
(`Pool.Run.lifetime`).

| the body says that the token was created | not accepted from |
| --- | --- |
| nothing, or no later than `t` | the lifetime after `t`, or earlier |
| later than `t` | the lifetime after the time that the body tells |

The server is meant to fill in the time itself. In the last case it does not, and a token can be
made to live on for as long as one likes (`App.lifetime_postponed`).
-/

import TokenAuthority.Proofs.Revocation
import TokenAuthority.Proofs.TokenChecks
import TokenAuthority.Proofs.Timeline
import TokenAuthority.Proofs.TokenLaw

namespace TokenAuthority

open Http (Request Response)
open Resource (AccessToken)
open Server (Route)
open Time (Instant nanosPerSecond)

/-- A request posts an access token. -/
structure Posts (request : Request) (token : AccessToken) : Prop where
  route : Route.ofPath request.path = some .accessTokens
  method : request.method = "POST"
  body : Server.readBody AccessToken.record request = .ok token

/-- A token was put in with the time at which that was done, as it was read. -/
def PutIn (token : AccessToken) (heard : List Exchange) : Prop :=
  ∃ now stored, Exchange.Reads heard now ∧
    ⟨.store .accessTokens (.insert (Stored.stamp token now)), .ok stored⟩ ∈ heard

/-- What was created was a success. -/
theorem Http.Response.isSuccess_of_created {response : Response} (created : response.status = 201) :
    response.IsSuccess := by
  rw [IsSuccess, created]
  decide

/-- No failure says that something was created. -/
theorem Http.Response.status_ofFailure_ne (f : Failure) : (ofFailure f).status ≠ 201 :=
  fun created => not_isSuccess_ofFailure f (isSuccess_of_created created)

namespace App

variable {app : App Task} {heard : List Exchange}

/-- A creation answers 201 only when it put the token in with the time that it read. -/
theorem yields_create {token : AccessToken} {request : Request}
    (body : Server.readBody AccessToken.record request = .ok token) (caller : Identity) :
    (app.create .accessTokens caller request).Yields (fun heard response =>
      response.status = 201 → PutIn token heard) heard := by
  unfold create
  split
  · rename_i unreadable
    cases unreadable.symm.trans body
  · rename_i object readable
    obtain rfl : object = token := Except.ok.inj (readable.symm.trans body)
    split
    · exact fun created => absurd created (Response.status_ofFailure_ne _)
    · refine (Task.yields_true _).bind fun heard ⟨change, verdict⟩ _ => ?_
      dsimp only
      split
      · exact fun created => absurd created (Response.status_ofFailure_ne _)
      · unfold Backend.create
        split
        · exact fun created => absurd created (Response.status_ofFailure_ne _)
        · intro now room
          cases room with
          | error e => exact fun created => absurd created (Response.status_ofFailure_ne _)
          | ok =>
            intro inserted
            cases inserted with
            | error e => exact fun created => absurd created (Response.status_ofFailure_ne _)
            | ok stored =>
              intro noted _
              exact ⟨now, stored, by simp [Exchange.Reads], by simp⟩

/-- A request that posts a token is answered by a creation. -/
theorem dispatch_of_posts {app : App Task} {request : Request} {token : AccessToken}
    (posts : Posts request token) (caller : Identity) :
    app.dispatch .accessTokens caller request = app.create .accessTokens caller request := by
  unfold dispatch
  rw [posts.method]
  rfl

/-- **What is answered with 201 has been put in.** -/
theorem yields_answer {token : AccessToken} {request : Request} (posts : Posts request token) :
    (app.answer request).Yields (fun heard response =>
      response.status = 201 → PutIn token heard) [] := by
  rw [answer_eq app posts.route rfl]
  refine (yields_screen request).bind fun heard outcome refused => ?_
  cases outcome with
  | error refusal =>
    exact fun created => absurd (Response.isSuccess_of_created created) (refused refusal rfl)
  | ok caller =>
    dsimp only
    rw [dispatch_of_posts posts]
    exact (yields_create posts.body caller).bind fun heard response put => put

end App

/-! ### Posts that succeed -/

namespace App

/-- What is answered once a token that was posted is put in, or cannot be. -/
def answerPost (change : Admission.Change) : Except StoreError AccessToken → Task Response
  | .error e => .done (.ofFailure e.toFailure)
  | .ok created => .call (.record (.audit (change.auditEvent "create" 201))) fun _ =>
    .done (.json 201 created.toJson)

/-- The rest of a post, once the token is put in or cannot be. -/
def concludePost (change : Admission.Change) (stored : Except StoreError AccessToken) :
    Task Response :=
  (answerPost change stored).bind fun response => .done (finish .accessTokens "POST" response)

/-- A token that nothing is wrong with and that is admitted is put in. -/
theorem create_of_admitted {app : App Task} {request : Request} {token : AccessToken}
    {caller : Identity} {change : Admission.Change}
    (body : Server.readBody AccessToken.record request = .ok token)
    (faultless : Collection.fault? .accessTokens token = none)
    (admitted : Admission.validate app.admission {
        resource := Collection.accessTokens.groupResource
        operation := .create
        name := Stored.name token
        user := some caller
        object := some (.accessToken token) } = .done (change, .ok ())) :
    app.create .accessTokens caller request =
      (Backend.create .accessTokens token : Task _).bind (answerPost change) := by
  unfold create
  rw [show Server.readBody Collection.accessTokens.record request = .ok token from body]
  dsimp only
  rw [faultless]
  dsimp only
  rw [show Collection.accessTokens.object token = .accessToken token from rfl, admitted]
  dsimp only [Task.bind_eq, Task.done_bind]
  congr 1
  funext stored
  cases stored <;> rfl

/-- A token that is posted by a caller who may do so, and that nothing is wrong with, is put in. -/
theorem answer_of_posts {app : App Task} {request : Request} {token : AccessToken}
    {caller : Identity} {change : Admission.Change} (posts : Posts request token)
    (screened : app.screen request = .done (.ok caller))
    (faultless : Collection.fault? .accessTokens token = none)
    (admitted : Admission.validate app.admission {
        resource := Collection.accessTokens.groupResource
        operation := .create
        name := Stored.name token
        user := some caller
        object := some (.accessToken token) } = .done (change, .ok ())) :
    app.answer request =
      (Backend.create .accessTokens token : Task _).bind (concludePost change) := by
  rw [answer_eq app posts.route rfl, screened, Task.done_bind]
  dsimp only
  rw [dispatch_of_posts posts, create_of_admitted posts.body faultless admitted, posts.method,
    map_eq_pure_bind, Task.bind_eq, Task.bind_assoc]
  rfl

/-- A caller with a configured token is known at once, and let through if the route permits it. -/
theorem screen_of_static {s : Settings} {tokens : List StaticToken} {policy : List PolicyRule}
    {review : Option (TokenAuthenticator Task)} {plugins : List (Admission.Plugin Task)}
    {request : Request} {route : Route} {token : List Char} {entry : StaticToken}
    (matched : Route.ofPath request.path = some route) (guarded : route.isProtected = true)
    (bearer : (Http.Header.first? request.headers Bearer.fieldName).bind (Bearer.token? ·.value) =
      some token)
    (listed : StaticToken.lookup? tokens (String.ofList token) = some entry)
    (permits : route.Permits policy request.method entry.identity) :
    (ofParts s tokens policy review plugins).screen request = .done (.ok entry.identity) := by
  have accepted : (callerAuthenticator s tokens { headers := request.headers } : Task Verdict) =
      .done (.ok (some { user := entry.identity })) := by
    unfold callerAuthenticator RequestAuthenticator.bearer
    rw [bearer]
    split
    · simp_all
    · rename_i empty
      obtain rfl := Option.some.inj empty
      simp [StaticToken.lookup?] at listed
    · rename_i same
      obtain rfl := Option.some.inj same
      simp only [TokenAuthenticator.union, TokenAuthenticator.firstAccepted,
        TokenAuthenticator.static, listed, Option.map_some, Task.pure_eq, Task.bind_eq,
        Task.done_bind]
  have authenticated : (ofParts s tokens policy review plugins).authenticate request =
      .done (.ok entry.identity) := by
    unfold authenticate
    dsimp only
    split
    · rename_i missing
      rw [Option.isNone_iff_eq_none.1 missing] at bearer
      simp at bearer
    · rw [show (ofParts s tokens policy review plugins).authenticator = callerAuthenticator s tokens
        from rfl, accepted]
      rfl
  unfold screen
  rw [authenticated, Task.bind_eq, Task.done_bind]
  dsimp only
  rw [authorize_of_permits rfl matched guarded permits]
  rfl

end App

/-! ### The end of a lifetime -/

/-- Under a name there is nothing but what uses make of an object. -/
def TokenLaw.only (object : AccessToken) : TokenLaw where
  clock _ := True
  token stored := Stored.name stored = Stored.name object → stored.lasting = object.lasting

/-- Every use keeps the law of one token and its uses. -/
theorem TokenLaw.keptByUse_only (object : AccessToken) (timeout : Option UInt64) :
    (only object).KeptByUse timeout :=
  fun seconds stored now _ legal _ named =>
    (stored.lasting_used now seconds).trans (legal named)

namespace Pool

open TokenAuthenticator (accessTokens)

variable {ι : Type} [DecidableEq ι]

/-- **An issued token is not accepted when its lifetime has passed since its creation.** Let any
number of requests be made to an application, and let them make their calls in any order. If one of
them posts a token under a new name and is answered 201, then it has read the time `t` and put the
token in with it. At any later moment `s`, as long as no other token is put in under the name, the
token is not accepted once its lifetime has passed since `token.created t`, the time that its body
carries or else `t`, however often it has been used meanwhile. -/
theorem Run.lifetime {settings : Settings} {tokens : List StaticToken} {policy : List PolicyRule}
    {post : Webhook.Transport Task} {configuration : String → ExceptT String Task (Option String)}
    {app : App Task} {w w' : World}
    (assembled : (App.assemble settings tokens policy post configuration).run w =
      (some (.ok app), w'))
    (inert : ∀ url seconds review, ∃ reply, post url seconds review = .done reply)
    {requests : ι → Request} {s₀ s : Pool ι Response} {es : List (Event ι)}
    (begins : ∀ i, s₀.tasks i = app.answer (requests i)) (run : Run s₀ es s) {i : ι}
    {token : AccessToken} {response : Response} (posts : Posts (requests i) token)
    (answered : s.tasks i = .done response) (created : response.status = 201)
    (lives : 0 < token.expiresIn.toInt)
    (new : s₀.world.accessTokens.find? (Stored.name token) = none)
    (once : ∀ x ∈ es, ∀ y ∈ es, x.Inserts .accessTokens (Stored.name token) →
      y.Inserts .accessTokens (Stored.name token) → x = y) :
    ∃ t, Exchange.Reads (dialogue i es) t ∧
      ((token.created t).nanos + token.expiresIn.toInt * nanosPerSecond ≤ s.world.clock.nanos →
        ∀ bearer timeout audiences accepted, TokenName.ofToken bearer = Stored.name token →
          ((accessTokens timeout bearer audiences : Task Verdict).run s.world).1 ≠
            some (.ok (some accepted))) := by
  -- what request `i` has put in
  have after := run.after i
  rw [begins, answered] at after
  obtain ⟨t, stored, read, inserted⟩ := (App.yields_answer posts).after after created
  simp only [Exchange.Reads, List.append_nil, List.mem_reverse] at read inserted
  let object : AccessToken := Stored.stamp token t
  have name : Stored.name object = Stored.name token := Stored.name_stamp token t
  -- nothing else comes under the name, but what uses make of it
  have admits (j : ι) (x : Exchange) (made : .exchange j x ∈ es) :
      (TokenLaw.only object).Admits x := by
    rintro object' stored' rfl named
    have same := once _ made _ (mem_dialogue.1 inserted) ⟨_, _, _, rfl, named.trans name⟩
      ⟨_, _, _, rfl, name⟩
    obtain ⟨-, exchange⟩ := Event.exchange.inj same
    obtain ⟨call, -⟩ := Exchange.mk.inj exchange
    cases call
    rfl
  have begun : (TokenLaw.only object).Holds s₀.world := by
    refine ⟨trivial, fun name' stored' found named => ?_⟩
    rw [← Store.name_of_find? found, named, name] at found
    exact absurd (found.symm.trans new) (by simp)
  obtain ⟨holds, -⟩ := run.requests_underLaw assembled inert begins
    (TokenLaw.keptByUse_only object _) begun (fun _ _ => trivial) admits
  refine ⟨t, read, fun reached bearer timeout audiences accepted bears result => ?_⟩
  obtain ⟨current, found, notExpired, -⟩ := TokenAuthenticator.of_run_accessTokens
    (Prod.ext result rfl)
  have lasting : current.lasting = object.lasting :=
    holds.token _ current found (by rw [Store.name_of_find? found, bears, name])
  have expiresIn : current.expiresIn = token.expiresIn := congrArg (·.expiresIn) lasting
  have isCreated : object.metadata.created = some (token.created t) := rfl
  rw [AccessToken.isExpired?, AccessToken.created_of_lasting isCreated lasting, expiresIn]
    at notExpired
  exact AccessToken.spanIsOver?_ne_some_false lives reached notExpired

/-- The hypotheses of `lifetime` are satisfiable: a token is posted for a minute, which passes. -/
theorem Run.lifetime_minute :
    let name := "0123456789abcdef0123456789abcdef"
    let app := App.selfContained {} [.admin] [.adminCreates]
    let request := Request.postToken name none 60
    ∃ (es : List (Event Unit)) (s : Pool Unit Response) (response : Response),
      Run ⟨World.ofSettings {} .epoch, fun _ => app.answer request⟩ es s ∧
        s.tasks () = .done response ∧ response.status = 201 ∧ s.world.clock.second = 60 ∧
        ∀ bearer timeout audiences accepted, TokenName.ofToken bearer = name →
          ((accessTokens timeout bearer audiences : Task Verdict).run s.world).1 ≠
            some (.ok (some accepted)) := by
  intro name app request
  let token : AccessToken := {
    metadata := { name }, clientName := "c", userName := "alice", userUid := "u1", expiresIn := 60 }
  obtain ⟨w', assembled⟩ := App.run_assemble_selfContained (s := {}) rfl (by decide +kernel)
    [.admin] [.adminCreates] (fun _ _ _ => .done none) (World.ofSettings {} .epoch)
  have posts : Posts request token := ⟨by decide, rfl, by decide +kernel⟩
  have permits : Server.Route.accessTokens.Permits [.adminCreates] request.method
      StaticToken.admin.identity :=
    .inr ⟨_, List.mem_singleton_self _, .inl (.inr (by decide)), .inr (by decide),
      .inl (by decide), .inl (by decide)⟩
  have bearer : (Http.Header.first? request.headers Bearer.fieldName).bind
      (Bearer.token? ·.value) = some "secret".toList := by decide +kernel
  have listed : StaticToken.lookup? [.admin] (String.ofList "secret".toList) =
      some .admin := by
    decide
  have screened : app.screen request = .done (.ok StaticToken.admin.identity) :=
    App.screen_of_static posts.route rfl bearer listed permits
  have answer := App.answer_of_posts posts screened (by decide +kernel) rfl
  let stored : AccessToken := Stored.stamp token .epoch
  let s₀ : Pool Unit Response := ⟨World.ofSettings {} .epoch, fun _ => app.answer request⟩
  let change : Admission.Change := {
    resource := Collection.accessTokens.groupResource, operation := .create
    name := Stored.name token, user := some StaticToken.admin.identity
    object := some (.accessToken token) }
  let es : List (Event Unit) := [
    .exchange () ⟨.now, .epoch⟩,
    .exchange () ⟨.store .accessTokens (.checkRoom (Stored.name token)), .ok ()⟩,
    .exchange () ⟨.store .accessTokens (.insert stored), .ok stored⟩,
    .exchange () ⟨.record (.audit (change.auditEvent "create" 201)), ()⟩,
    .tick ⟨60, 0, rfl⟩]
  obtain ⟨s, run, answered, clock⟩ : ∃ s, Run s₀ es s ∧
      s.tasks () = .done (App.finish .accessTokens "POST" (.json 201 stored.toJson)) ∧
        s.world.clock = ⟨60, 0, rfl⟩ := by
    have begun : s₀ = ⟨World.ofSettings {} .epoch, fun _ =>
        (Backend.create .accessTokens token : Task _).bind (App.concludePost change)⟩ := by
      simp only [s₀, answer]
      rfl
    rw [begun]
    exact ⟨_, .cons (.exchange rfl) (.cons (.exchange rfl) (.cons (.exchange rfl)
      (.cons (.exchange rfl) (.cons (.tick _ _) (.nil _))))), rfl, rfl⟩
  -- of the events only the third puts anything in
  have once (x : Event Unit) (mem : x ∈ es)
      (inserts : x.Inserts .accessTokens (Stored.name token)) :
      x = .exchange () ⟨.store .accessTokens (.insert stored), .ok stored⟩ := by
    obtain ⟨i, object, answer, rfl, -⟩ := inserts
    simp only [es, List.mem_cons, List.not_mem_nil, or_false] at mem
    rcases mem with h | h | h | h | h <;> cases h
    rfl
  obtain ⟨t, read, ended⟩ := run.lifetime assembled (fun _ _ _ => ⟨_, rfl⟩) (fun _ => rfl) posts
    answered rfl (by decide) rfl fun x hx y hy insX insY =>
      (once x hx insX).trans (once y hy insY).symm
  obtain rfl : t = .epoch := by
    have mem := mem_dialogue.1 read
    simp only [es, List.mem_cons, List.not_mem_nil, or_false] at mem
    rcases mem with h | h | h | h | h <;> cases h
    rfl
  exact ⟨es, s, _, run, answered, rfl, by rw [clock], ended (by rw [clock]; decide)⟩

end Pool

/-- The body of a post decides how long the token lives: one that says that it was created in the
year 2100 is accepted more than three years after it was posted for a second. -/
theorem App.lifetime_postponed :
    let name := "0123456789abcdef0123456789abcdef"
    let app := App.selfContained {} [.admin] [.adminCreates]
    let alice : Resource.User := { metadata := { name := "alice", uid := some "u1" } }
    let w : World :=
      ⟨⟨1767225600, 0, rfl⟩, { capacity := 9 }, Store.put { capacity := 9 } alice, []⟩
    let posted := (app.answer (.postToken name (some "2100-01-01T00:00:00Z") 1)).run w
    let later : World := { posted.2 with clock := ⟨1867225600, 0, rfl⟩ }
    posted.1.map (·.status) = some 201 ∧
      ((TokenAuthenticator.accessTokens none name none : Task Verdict).run later).1.bind
        Verdict.user? = some { name := "alice", uid := "u1" } := by
  decide +kernel

end TokenAuthority
