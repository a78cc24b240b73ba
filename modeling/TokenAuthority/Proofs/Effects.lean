/-
# What a request changes

A request that is let through on behalf of a caller, and is worked on alone, changes the stores and
the audit in one of these ways (`App.EffectFor`), apart from the note of a use in the token that its
caller was accepted by:

| request | answer | stores | audit |
| --- | --- | --- | --- |
| posts a review | any | the note of a use in the token under review, if that is accepted | |
| posts an object | 201 | the object is put in | the creation |
| deletes a token | 200 | the token is taken out | the deletion |
| any | any other | | |

So a request that fails, or only reads, leaves all objects as they were, up to the notes of uses
(`App.answer_sameUpTo`).
-/

import TokenAuthority.Proofs.Alone
import TokenAuthority.Proofs.Requests
import TokenAuthority.Proofs.Reviewing

namespace TokenAuthority

open Http (Request Response)
open Resource (TokenReview)
open Server (Route)
open Time (Instant)

/-- A response has a status and carries JSON. -/
structure Http.Response.Tells (response : Response) (status : Nat) (value : Json.Value) : Prop where
  status : response.status = status
  content : response.content = some (.json value)

/-- A response in JSON tells its value. -/
theorem Http.Response.tells_json (status : Nat) (value : Json.Value) :
    (json status value).Tells status value :=
  ⟨rfl, rfl⟩

/-- A response that tells something with a status from 200 to 299 is a success. -/
theorem Http.Response.Tells.isSuccess {response : Response} {status : Nat} {value : Json.Value}
    (tells : response.Tells status value) (h : 200 ≤ status ∧ status < 300) :
    response.IsSuccess := by
  unfold IsSuccess
  rwa [tells.status]

/-- A body that cannot be read is no success. -/
theorem Server.BodyError.not_isSuccess_response (e : BodyError) : ¬e.response.IsSuccess := by
  cases e <;> exact fun success => absurd success.2 (by decide)

/-- The route of a collection. -/
def Collection.route : Collection → Route
  | accessTokens => .accessTokens
  | users => .users

/-- Collections are told apart by their routes. -/
theorem Collection.route_injective : Function.Injective route := by
  rintro (_ | _) (_ | _) h <;> first | rfl | cases h

namespace Collection

/-- What is checked of an object before it is stored. -/
def IsSound : (c : Collection) → c.Object → Prop
  | accessTokens, t =>
    t.metadata.name ≠ "" ∧ t.clientName ≠ "" ∧ t.userName ≠ "" ∧ t.userUid ≠ ""
  | users, u => u.metadata.name ≠ ""

/-- An object without a fault is sound. -/
theorem isSound_of_fault? {c : Collection} {object : c.Object} (h : c.fault? object = none) :
    c.IsSound object := by
  cases c with
  | users => exact fun unnamed => absurd h (by simp [fault?, unnamed])
  | accessTokens =>
    simp only [fault?, ite_eq_right_iff, reduceCtorEq, imp_false, ite_eq_iff, and_false, false_or]
      at h
    obtain ⟨long, fields⟩ := h
    refine ⟨fun unnamed => long ?_, fields⟩
    rw [unnamed]
    decide

/-- A sound object has a name. -/
theorem IsSound.named {c : Collection} {object : c.Object} (sound : c.IsSound object) :
    Stored.name object ≠ "" := by
  cases c with
  | users => exact sound
  | accessTokens => exact sound.1

/-- An object stays sound when the time of storing is filled in. -/
theorem IsSound.stamp {c : Collection} {object : c.Object} (sound : c.IsSound object)
    (now : Instant) : c.IsSound (Stored.stamp object now) := by
  cases c <;> exact sound

end Collection

/-! ### Reviews -/

/-- In what is heard first, the token that a review carries is accepted; it is stored under a
name. -/
inductive Reviewer.Uses (r : Reviewer Task) (review : TokenReview) (name : String)
    (heard : List Exchange) : Prop where
  | intro {authenticate : Credentials → Task Timed} {credentials : Credentials} {answer : Timed}
      {before after : List Exchange} (configured : r.authenticator = some authenticate)
      (legal : Reviewer.credentials? review.spec.token (r.wanted review) = some credentials)
      (carried : credentials.tokenName? = some name) (split : heard = before ++ after)
      (ends : (authenticate credentials).After before (.done answer))
      (accepts : Verdict.Accepts answer.verdict)

namespace Reviewer

variable {r : Reviewer Task} {timeout : Option UInt64} {review : TokenReview} {w w' : World}
  {heard : List Exchange}

/-- What a verdict takes notes no use but that of the token under review. -/
theorem sameUpTo_verdict {outcome : Option Verdict}
    (notes : ∀ authenticate, r.authenticator = some authenticate → ∀ credentials,
      (authenticate credentials).NotesUse timeout (credentials.tokenName? = some ·)
        (Verdict.Accepts ·.verdict))
    (ends : (r.verdict review).Ends w heard outcome w') :
    w.SameUpTo (fun name => timeout ≠ none ∧ r.Uses review name heard) w' := by
  cases configured : r.authenticator with
  | none =>
    unfold verdict at ends
    rw [configured] at ends
    exact (ends.sameStores trivial).sameUpTo
  | some authenticate =>
    cases legal : credentials? review.spec.token (r.wanted review) with
    | none =>
      unfold verdict at ends
      rw [configured] at ends
      dsimp only at ends
      rw [legal] at ends
      exact (ends.sameStores trivial).sameUpTo
    | some credentials =>
      rw [verdict_of_legal configured legal] at ends
      obtain ⟨answer, before, after, w₁, split, first, second⟩ | ⟨-, first⟩ := ends.of_bind
      · have noted := (notes authenticate configured credentials).of_some first
        refine (noted.mono ?_).trans (second.sameStores trivial).sameUpTo
        rintro name ⟨carried, limited, accepts⟩
        exact ⟨limited, configured, legal, carried, split, first.after, accepts⟩
      · exact (notes authenticate configured credentials).of_not_accepts first nofun

/-- What is heard later does not matter. -/
theorem Uses.append {name : String} (uses : r.Uses review name heard) (later : List Exchange) :
    r.Uses review name (heard ++ later) := by
  obtain ⟨configured, legal, carried, rfl, ends, accepts⟩ := uses
  exact ⟨configured, legal, carried, List.append_assoc .., ends, accepts⟩

/-- A review notes no use but that of the token under review. -/
theorem sameUpTo_create {ns : Option String} {outcome : Option (Except Failure TokenReview)}
    (notes : ∀ authenticate, r.authenticator = some authenticate → ∀ credentials,
      (authenticate credentials).NotesUse timeout (credentials.tokenName? = some ·)
        (Verdict.Accepts ·.verdict))
    (ends : (r.create ns review).Ends w heard outcome w') :
    w.SameUpTo (fun name => timeout ≠ none ∧ r.Uses review name heard) w' := by
  unfold create at ends
  split at ends
  · exact (ends.sameStores trivial).sameUpTo
  · dsimp only [Task.pure_eq, Task.bind_eq, Task.done_bind] at ends
    split at ends
    · exact (ends.sameStores trivial).sameUpTo
    · obtain ⟨verdict, before, after, w₁, split, first, second⟩ | ⟨-, first⟩ :=
        Task.Ends.of_bind ends
      · have noted := sameUpTo_verdict notes first
        refine (noted.mono ?_).trans (second.sameStores (r.isQuiet_conclude review _)).sameUpTo
        rintro name ⟨limited, uses⟩
        exact ⟨limited, split ▸ uses.append after⟩
      · exact sameUpTo_verdict notes first

end Reviewer

/-! ### Storing -/

namespace World

variable {w w₁ w₂ : World}

/-- A world stays the same if a store is put in its own place. -/
theorem withStore_store (w : World) (c : Collection) : w.withStore c (w.store c) = w := by
  cases c <;> rfl

/-- Stores that are the same stay so by the same change. -/
theorem SameStores.withStore (h : w₁.SameStores w₂) (c : Collection)
    (change : Store c.Object → Store c.Object) :
    (w₁.withStore c (change (w₁.store c))).SameStores (w₂.withStore c (change (w₂.store c))) := by
  intro d
  by_cases same : d = c
  · subst same
    rw [store_withStore, store_withStore, h d]
  · rw [store_withStore_of_ne _ _ same, store_withStore_of_ne _ _ same, h d]

/-- An intact world stays so by the same change on both sides. -/
theorem Intact.withStore (h : w₁.Intact w₂) (c : Collection)
    (change : Store c.Object → Store c.Object) :
    (w₁.withStore c (change (w₁.store c))).Intact (w₂.withStore c (change (w₂.store c))) :=
  ⟨h.stores.withStore c change, by rw [audits_withStore, audits_withStore, h.audits]⟩

/-- Nothing is put in under a name that is taken, and the world is left. -/
theorem perform_insert_of_taken {w : World} {c : Collection} {object old : c.Object}
    (found : (w.store c).find? (Stored.name object) = some old) :
    w.perform (.store c (.insert object)) =
      (.error (.alreadyExists (Stored.resource c.Object) (Stored.name object)), w) := by
  have refused := congrArg (fun o => (o.1, w.withStore c o.2))
    (Store.perform_insert_of_taken found)
  dsimp only at refused
  rw [withStore_store] at refused
  exact refused

/-- An object is put in under a name that is free, and all else is left. -/
theorem perform_insert_of_free {w : World} {c : Collection} {object : c.Object}
    (free : (w.store c).find? (Stored.name object) = none) :
    w.perform (.store c (.insert object)) =
      (.ok object, w.withStore c ((w.store c).put object)) :=
  congrArg (fun o => (o.1, w.withStore c o.2)) (Store.perform_insert_of_free free)

/-- What putting an object in comes to. -/
theorem perform_insert (w : World) (c : Collection) (object : c.Object) :
    (∃ e, w.perform (.store c (.insert object)) = (.error e, w)) ∨
      (w.store c).find? (Stored.name object) = none ∧
        w.perform (.store c (.insert object)) =
          (.ok object, w.withStore c ((w.store c).put object)) := by
  cases found : (w.store c).find? (Stored.name object) with
  | none => exact .inr ⟨rfl, perform_insert_of_free found⟩
  | some old => exact .inl ⟨_, perform_insert_of_taken found⟩

/-- An object is taken out, and all else is left. -/
theorem perform_remove_of_found {w : World} {c : Collection} {name : String} {object : c.Object}
    (found : (w.store c).find? name = some object) :
    w.perform (.store c (.remove name)) =
      (.ok object, w.withStore c ((w.store c).drop name)) :=
  congrArg (fun o => (o.1, w.withStore c o.2)) (Store.perform_remove_of_found found)

end World

/-- An object is created, if its name is free, or nothing changes. -/
theorem Backend.ends_create {c : Collection} {object : c.Object} {w w' : World}
    {heard : List Exchange} {outcome : Option (Except StoreError c.Object)}
    (ends : (create c object : Task _).Ends w heard outcome w') :
    (w.Intact w' ∧ ∃ e, outcome = some (.error e)) ∨
      ∃ now, (w.store c).find? (Stored.name object) = none ∧
        (w.withStore c ((w.store c).put (Stored.stamp object now))).Intact w' ∧
        outcome = some (.ok (Stored.stamp object now)) := by
  unfold create at ends
  split at ends
  · refine .inl ⟨ends.intact trivial, ?_⟩
    obtain ⟨-, rfl, -⟩ := ends.of_done
    exact ⟨_, rfl⟩
  · obtain ⟨now, w₁, later, -, same, read⟩ := Task.Ends.of_quiet rfl ends
    obtain ⟨room, w₂, later, -, same', asked⟩ := Task.Ends.of_quiet rfl read
    have kept := same.trans same'
    cases room with
    | error e =>
      refine .inl ⟨kept.trans (asked.intact trivial), ?_⟩
      obtain ⟨-, rfl, -⟩ := asked.of_done
      exact ⟨_, rfl⟩
    | ok =>
      obtain ⟨clock, last, -, made⟩ := asked.of_call
      have ticked := kept.trans (World.Intact.tick w₂ clock)
      obtain ⟨e, refused⟩ | ⟨free, put⟩ :=
        World.perform_insert { w₂ with clock } c (Stored.stamp object now)
      · rw [refused] at made
        refine .inl ⟨ticked.trans (made.intact trivial), ?_⟩
        obtain ⟨-, rfl, -⟩ := made.of_done
        exact ⟨_, rfl⟩
      · rw [put] at made
        rw [ticked.stores.find? c, Stored.name_stamp] at free
        refine .inr ⟨now, free, ?_, ?_⟩
        · exact (ticked.withStore c (·.put (Stored.stamp object now))).trans
            (made.intact trivial)
        · obtain ⟨-, rfl, -⟩ := made.of_done
          rfl

/-! ### Admission -/

namespace Admission

/-- The change that a caller asks for who posts an object. -/
def Change.creating (c : Collection) (caller : Identity) (object : c.Object) : Change where
  resource := c.groupResource
  operation := .create
  name := Stored.name object
  user := some caller
  object := some (c.object object)

/-- The change that a caller asks for who deletes the token that is found under a name. -/
def Change.deleting (caller : Identity) (name : String) (existing : Resource.AccessToken) :
    Change where
  resource := Collection.accessTokens.groupResource
  operation := .delete
  name := name
  user := some caller
  object := some (.accessToken existing)

/-- The change that is audited when a token is deleted: its owner is noted. -/
def Change.deleted (caller : Identity) (name : String) (existing : Resource.AccessToken) : Change :=
  (Change.deleting caller name existing).note AuditLogouts.ownerKey existing.userName

/-- The plugin of this library lets tokens be deleted, and notes their owner. -/
theorem AuditLogouts.validate_deleting (caller : Identity) (name : String)
    (existing : Resource.AccessToken) :
    (Admission.validate [plugin] (.deleting caller name existing) : Task _) =
      .call (.record (.message .info
        ("deletion of oauthaccesstoken for user " ++ existing.userName))) fun _ =>
        .done (Change.deleted caller name existing, .ok ()) := by
  let change := Change.deleting caller name existing
  have owned : change.object.bind (·.owner?) = some existing.userName := rfl
  have noted : (plugin : Plugin Task).validate change = _ := validate_of_owned rfl owned
  have handled : (plugin : Plugin Task).handles change.operation = true := rfl
  unfold Admission.validate
  rw [if_pos handled, noted]
  rfl

/-- In what is heard first, the plugins let a change pass, with their annotations. -/
inductive Admits (plugins : List (Plugin Task)) (heard : List Exchange) (asked noted : Change) :
    Prop where
  | intro {before after : List Exchange} (split : heard = before ++ after)
      (passed : (validate plugins asked).After before (.done (noted, .ok ())))

end Admission

/-! ### Endpoints -/

/-- What a response tells stays when the response is finished. -/
theorem Http.Response.Tells.finish {response : Response} {status : Nat} {value : Json.Value}
    (tells : response.Tells status value) (route : Route) (method : String) :
    (App.finish route method response).Tells status value :=
  ⟨tells.status, tells.content⟩

/-- The routes and methods behind which an endpoint is. -/
def Server.Endpoint.IsBehind (route : Route) (method : String) : Endpoint → Prop
  | createTokenReview none => route = .tokenReviews ∧ method = "POST"
  | createTokenReview (some ns) => route = .namespacedTokenReviews ns ∧ method = "POST"
  | createAccessToken => route = .accessTokens ∧ method = "POST"
  | createUser => route = .users ∧ method = "POST"
  | deleteAccessToken name => route = .accessToken name ∧ method = "DELETE"
  | _ => method = "GET" ∨ method = "HEAD"

/-- What a method does on a route is behind that route and method. -/
theorem Server.Route.isBehind_of_endpoint? {route : Route} {method : String} {endpoint : Endpoint}
    (found : route.endpoint? method = some endpoint) : endpoint.IsBehind route method := by
  have reads (get : (if method = "HEAD" then "GET" else method) = "GET") :
      method = "GET" ∨ method = "HEAD" := by
    by_cases head : method = "HEAD"
    · exact .inr head
    · exact .inl (by rwa [if_neg head] at get)
  have writes {other : String} (noGet : other ≠ "GET")
      (isOther : (if method = "HEAD" then "GET" else method) = other) : method = other := by
    by_cases head : method = "HEAD"
    · rw [if_pos head] at isOther
      exact absurd isOther.symm noGet
    · rwa [if_neg head] at isOther
  unfold endpoint? at found
  split at found <;> cases found
  all_goals first
    | exact reads ‹_›
    | exact ⟨rfl, writes (by decide) ‹_›⟩

/-- The outcome of a request that fails, and changes nothing. -/
structure App.Fails (w : World) (outcome : Option Response) (w' : World) : Prop where
  intact : w.Intact w'
  unsuccessful : ∀ response, outcome = some response → ¬response.IsSuccess

namespace App

/-- What fails behind a part that leaves the world intact fails as a whole. -/
theorem Fails.after {w w₁ w' : World} {outcome : Option Response} (fails : Fails w₁ outcome w')
    (same : w.Intact w₁) : Fails w outcome w' :=
  ⟨same.trans fails.intact, fails.unsuccessful⟩

/-- The parts of an application do nothing to the stores, but that authentications note the use of
what they accept. -/
structure PartsNote (app : App Task) (timeout : Option UInt64) : Prop where
  authenticator : ∀ credentials, (app.authenticator credentials).NotesUse timeout
    (credentials.tokenName? = some ·) Verdict.Accepts
  authorizer : ∃ policy, app.authorizer = .union [.tokenReviewer, .rules policy]
  admission : ∀ plugin ∈ app.admission, ∀ change, (plugin.validate change).IsQuiet
  reviewer : ∀ authenticate, app.reviewer.authenticator = some authenticate → ∀ credentials,
    (authenticate credentials).NotesUse timeout (credentials.tokenName? = some ·)
      (Verdict.Accepts ·.verdict)

/-- What a request for a route does that is let through on behalf of a caller. -/
inductive EffectFor (app : App Task) (timeout : Option UInt64) (route : Route) (caller : Identity)
    (request : Request) (w : World) (heard : List Exchange) (outcome : Option Response)
    (w' : World) : Prop where
  /-- Nothing, because it fails. -/
  | failed (fails : Fails w outcome w')
  /-- Nothing, because it only reads. -/
  | read (intact : w.Intact w') (method : request.method = "GET" ∨ request.method = "HEAD")
  /-- The use of the token under review is noted. -/
  | noted {review : TokenReview} (reviews : route.isReview = true)
      (method : request.method = "POST")
      (body : Server.readBody TokenReview.record request = .ok review)
      (audits : w'.audits = w.audits)
      (upTo : w.SameUpTo (fun name => timeout ≠ none ∧ app.reviewer.Uses review name heard) w')
  /-- An object is put in. -/
  | created {c : Collection} {posted : c.Object} {now : Instant} {noted : Admission.Change}
      (route : route = c.route) (method : request.method = "POST")
      (body : Server.readBody c.record request = .ok posted) (faultless : c.fault? posted = none)
      (admitted : Admission.Admits app.admission heard (.creating c caller posted) noted)
      (new : (w.store c).find? (Stored.name posted) = none)
      (put : (w.withStore c ((w.store c).put (Stored.stamp posted now))).SameStores w')
      (audits : w'.audits = w.audits ++ [noted.auditEvent "create" 201])
      (answered : ∃ response, outcome = some response ∧
        response.Tells 201 (c.toJson (Stored.stamp posted now)))
  /-- A token is taken out. -/
  | deleted {segment name : String} {deleted : Resource.AccessToken} {noted : Admission.Change}
      {later : List Exchange} (route : route = .accessToken segment)
      (method : request.method = "DELETE")
      (decoded : Http.Percent.decodeText? segment = some name)
      (looked : heard = ⟨.store .accessTokens (.find name), some deleted⟩ :: later)
      (admitted : Admission.Admits app.admission later (.deleting caller name deleted) noted)
      (present : w.accessTokens.find? name = some deleted)
      (dropped : { w with accessTokens := w.accessTokens.drop name }.SameStores w')
      (audits : w'.audits = w.audits ++ [noted.auditEvent "delete" 200])
      (answered : ∃ response, outcome = some response ∧ response.Tells 200 deleted.toJson)

/-- What a request for a route does that is let through on behalf of anyone. -/
def Effect (app : App Task) (timeout : Option UInt64) (route : Route) (request : Request)
    (w : World) (heard : List Exchange) (outcome : Option Response) (w' : World) : Prop :=
  ∃ caller, app.EffectFor timeout route caller request w heard outcome w'

namespace Effect

variable {app : App Task} {timeout : Option UInt64} {route : Route} {request : Request}
  {w w' : World} {heard : List Exchange} {outcome : Option Response}

/-- Without a success, and for a method that reads or a review, nothing changes but the note of the
use of the token under review. -/
theorem sameUpTo (effect : app.Effect timeout route request w heard outcome w')
    (h : (∀ response, outcome = some response → ¬response.IsSuccess) ∨ request.method = "GET" ∨
      request.method = "HEAD" ∨ route.isReview = true) :
    w.SameUpTo (fun name => route.isReview = true ∧ request.method = "POST" ∧
      ∃ review, Server.readBody TokenReview.record request = .ok review ∧ timeout ≠ none ∧
        app.reviewer.Uses review name heard) w' := by
  -- what was put in or taken out has been answered with success, and by another method
  have writes {method : String} (noRead : method ≠ "GET" ∧ method ≠ "HEAD")
      (isMethod : request.method = method) (noReview : route.isReview = false)
      {response : Response} (answered : outcome = some response) (success : response.IsSuccess) :
      False := by
    obtain unsuccessful | get | head | reviews := h
    · exact unsuccessful response answered success
    · exact noRead.1 (isMethod ▸ get)
    · exact noRead.2 (isMethod ▸ head)
    · exact Bool.false_ne_true (noReview.symm.trans reviews)
  obtain ⟨caller, effect⟩ := effect
  cases effect with
  | failed fails => exact fails.intact.stores.sameUpTo
  | read intact method => exact intact.stores.sameUpTo
  | noted reviews method body audits upTo =>
    exact upTo.mono fun name noted => ⟨reviews, method, _, body, noted⟩
  | @created c posted now noted isRoute method body faultless admitted new put audits answered =>
    obtain ⟨response, answered, tells⟩ := answered
    exact (writes (by decide) method (by rw [isRoute]; cases c <;> rfl) answered
      (tells.isSuccess (by decide))).elim
  | deleted isRoute method decoded looked admitted present dropped audits answered =>
    obtain ⟨response, answered, tells⟩ := answered
    exact (writes (by decide) method (by rw [isRoute]; rfl) answered
      (tells.isSuccess (by decide))).elim

/-- The success of a `POST` of an object has put the object in, under a name that was free. -/
theorem of_post (effect : app.Effect timeout route request w heard outcome w')
    {response : Response} (answered : outcome = some response) (success : response.IsSuccess)
    (post : request.method = "POST") {c : Collection} (isRoute : route = c.route) :
    ∃ posted now, Server.readBody c.record request = .ok posted ∧
      (w.store c).find? (Stored.name posted) = none ∧
      (w.withStore c ((w.store c).put (Stored.stamp posted now))).SameStores w' := by
  obtain ⟨caller, effect⟩ := effect
  cases effect with
  | failed fails => exact absurd success (fails.unsuccessful response answered)
  | read intact method =>
    rw [post] at method
    exact absurd method (by decide)
  | noted reviews method body audits upTo =>
    rw [isRoute] at reviews
    cases c <;> cases reviews
  | @created d posted now noted isRoute' method body faultless admitted new put audits answered =>
    obtain rfl : d = c := Collection.route_injective (isRoute'.symm.trans isRoute)
    exact ⟨posted, now, body, new, put⟩
  | deleted isRoute' method decoded looked admitted present dropped audits answered =>
    rw [post] at method
    exact absurd method (by decide)

/-- The success of a `DELETE` has taken the token out that the path names. -/
theorem of_delete (effect : app.Effect timeout route request w heard outcome w')
    {response : Response} (answered : outcome = some response) (success : response.IsSuccess)
    (delete : request.method = "DELETE") :
    ∃ segment name token, route = .accessToken segment ∧
      Http.Percent.decodeText? segment = some name ∧ w.accessTokens.find? name = some token ∧
      { w with accessTokens := w.accessTokens.drop name }.SameStores w' := by
  have noPost (post : request.method = "POST") : False := by
    rw [delete] at post
    exact absurd post (by decide)
  obtain ⟨caller, effect⟩ := effect
  cases effect with
  | failed fails => exact absurd success (fails.unsuccessful response answered)
  | read intact method =>
    rw [delete] at method
    exact absurd method (by decide)
  | noted reviews method body audits upTo => exact (noPost method).elim
  | created isRoute method body faultless admitted new put audits answered =>
    exact (noPost method).elim
  | deleted isRoute method decoded looked admitted present dropped audits answered =>
    exact ⟨_, _, _, isRoute, decoded, present, dropped⟩

end Effect

section Endpoints

variable {app : App Task} {timeout : Option UInt64} {w w' : World} {heard : List Exchange}
  {outcome : Option Response}

/-- A refusal that is told at once is a failure. -/
theorem fails_of_refusal {refusal : Response} (refused : ¬refusal.IsSuccess)
    (ends : (Task.done refusal).Ends w heard outcome w') : Fails w outcome w' := by
  refine ⟨ends.intact trivial, ?_⟩
  obtain ⟨-, rfl, -⟩ := ends.of_done
  rintro response ⟨⟩
  exact refused

/-- An error that is told at once is a failure. -/
theorem fails_of_failure {f : Failure}
    (ends : (Task.done (Response.ofFailure f)).Ends w heard outcome w') : Fails w outcome w' :=
  fails_of_refusal (Response.not_isSuccess_ofFailure f) ends

/-- The plugins only ask, and come to a decision. -/
theorem ends_validate (parts : app.PartsNote timeout) {asked : Admission.Change}
    {next : Admission.Change × Except Admission.Error Unit → Task Response}
    (ends : ((Admission.validate app.admission asked).bind next).Ends w heard outcome w') :
    ∃ noted verdict before after w₁, heard = before ++ after ∧
      (Admission.validate app.admission asked).After before (.done (noted, verdict)) ∧
      w.Intact w₁ ∧ (next (noted, verdict)).Ends w₁ after outcome w' := by
  have quiet := Admission.isQuiet_validate parts.admission asked
  obtain ⟨⟨noted, verdict⟩, before, after, w₁, split, first, second⟩ | ⟨-, first⟩ := ends.of_bind
  · exact ⟨noted, verdict, before, after, w₁, split, first.after, first.intact quiet, second⟩
  · obtain ⟨result, same⟩ := first.exists_of_isQuiet quiet
    cases same

/-- The note of a change that was made in the audit comes last. -/
theorem ends_audit {event : AuditEvent} {response : Response}
    (ends : (Task.call (.record (.audit event)) fun _ => .done response).Ends w heard outcome w') :
    w.SameStores w' ∧ w'.audits = w.audits ++ [event] ∧ outcome = some response := by
  obtain ⟨clock, later, -, told⟩ := ends.of_call
  obtain ⟨-, rfl, clock', rfl⟩ := told.of_done
  refine ⟨fun c => ?_, World.audits_perform_audit _ event, rfl⟩
  cases c <;> rfl

/-- A creation puts the posted object in, or fails and changes nothing. -/
theorem ends_create (parts : app.PartsNote timeout) {c : Collection} {caller : Identity}
    {request : Request} (isPost : request.method = "POST")
    (ends : (app.create c caller request).Ends w heard outcome w') :
    app.EffectFor timeout c.route caller request w heard outcome w' := by
  unfold create at ends
  split at ends
  · exact .failed (fails_of_refusal (Server.BodyError.not_isSuccess_response _) ends)
  · rename_i posted readable
    split at ends
    · exact .failed (fails_of_failure ends)
    · rename_i faultless
      -- the plugins only ask, so nothing changes until the object is put in
      obtain ⟨noted, verdict, before, after, w₁, split, passed, same, decided⟩ :=
        ends_validate parts ends
      cases verdict with
      | error objection => exact .failed ((fails_of_failure decided).after same)
      | ok =>
        obtain ⟨stored, before', after', w₂, -, first, second⟩ | ⟨-, first⟩ :=
          Task.Ends.of_bind decided
        · obtain ⟨same', e, result⟩ | ⟨now, free, put, result⟩ := Backend.ends_create first
          · obtain rfl := Option.some.inj result
            exact .failed ((fails_of_failure second).after (same.trans same'))
          · obtain rfl := Option.some.inj result
            have stored := (same.withStore c (·.put (Stored.stamp posted now))).trans put
            obtain ⟨kept, audits, rfl⟩ := ends_audit second
            rw [stored.audits, World.audits_withStore] at audits
            exact .created rfl isPost readable (Option.eq_none_iff_forall_ne_some.2 faultless)
              ⟨split, passed⟩ (same.stores.find? c _ ▸ free) (stored.stores.trans kept) audits
              ⟨_, rfl, Response.tells_json ..⟩
        · obtain ⟨-, e, result⟩ | ⟨now, -, -, result⟩ := Backend.ends_create first <;>
            cases result

/-- A token that is not there is not deleted. -/
theorem ends_deleteAccessToken_of_missing {caller : Identity} {name : String}
    (missing : w.accessTokens.find? name = none)
    (ends : (app.deleteAccessToken caller name).Ends w heard outcome w') :
    w.Intact w' ∧ outcome = some (.ofFailure (.notFound Resource.accessTokens name)) := by
  obtain ⟨w₁, later, -, same, looked⟩ := Task.Ends.of_find ends
  rw [World.store, missing, Task.done_bind] at looked
  refine ⟨same.trans (looked.intact trivial), ?_⟩
  obtain ⟨-, rfl, -⟩ := looked.of_done
  rfl

/-- A token that is there is deleted, unless a plugin objects. -/
theorem ends_deleteAccessToken_of_found (parts : app.PartsNote timeout) {caller : Identity}
    {name : String} {existing : Resource.AccessToken}
    (found : w.accessTokens.find? name = some existing)
    (ends : (app.deleteAccessToken caller name).Ends w heard outcome w') :
    ∃ noted verdict before after,
      heard = ⟨.store .accessTokens (.find name), some existing⟩ :: (before ++ after) ∧
      (Admission.validate app.admission (.deleting caller name existing)).After before
        (.done (noted, verdict)) ∧
      ((∃ e, verdict = .error e) ∧ Fails w outcome w' ∨ verdict = .ok () ∧
        { w with accessTokens := w.accessTokens.drop name }.SameStores w' ∧
        w'.audits = w.audits ++ [noted.auditEvent "delete" 200] ∧
        outcome = some (.json 200 existing.toJson)) := by
  obtain ⟨w₁, later, rfl, same, looked⟩ := Task.Ends.of_find ends
  rw [World.store, found] at looked ⊢
  obtain ⟨noted, verdict, before, after, w₂, rfl, passed, same', decided⟩ :=
    ends_validate parts looked
  refine ⟨noted, verdict, before, after, rfl, passed, ?_⟩
  have kept := same.trans same'
  cases verdict with
  | error objection => exact .inl ⟨⟨_, rfl⟩, (fails_of_failure decided).after kept⟩
  | ok =>
    refine .inr ⟨rfl, ?_⟩
    obtain ⟨clock, last, -, made⟩ := Task.Ends.of_call decided
    have ticked := kept.trans (World.Intact.tick w₂ clock)
    -- nothing has changed since the look-up, so it is that token that is taken out
    have present := (ticked.stores.find? .accessTokens name).trans found
    rw [World.perform_remove_of_found present] at made
    obtain ⟨_, w₃, later, -, told, audited⟩ := Task.Ends.of_quiet rfl made
    obtain ⟨same, audits, rfl⟩ := ends_audit audited
    have dropped := (ticked.withStore .accessTokens (·.drop name)).trans told
    rw [dropped.audits, World.audits_withStore] at audits
    exact ⟨dropped.stores.trans same, audits, rfl⟩

/-- A deletion takes the token out, or fails and changes nothing. -/
theorem ends_deleteAccessToken (parts : app.PartsNote timeout) {caller : Identity}
    {request : Request} {segment name : String} (isDelete : request.method = "DELETE")
    (decoded : Http.Percent.decodeText? segment = some name)
    (ends : (app.deleteAccessToken caller name).Ends w heard outcome w') :
    app.EffectFor timeout (.accessToken segment) caller request w heard outcome w' := by
  cases found : w.accessTokens.find? name with
  | none =>
    obtain ⟨intact, rfl⟩ := ends_deleteAccessToken_of_missing found ends
    refine .failed ⟨intact, ?_⟩
    rintro response ⟨⟩
    exact Response.not_isSuccess_ofFailure _
  | some existing =>
    obtain ⟨noted, verdict, before, after, looked, passed, ⟨-, fails⟩ | ⟨rfl, dropped, audits,
      answered⟩⟩ := ends_deleteAccessToken_of_found parts found ends
    · exact .failed fails
    · exact .deleted rfl isDelete decoded looked ⟨rfl, passed⟩ found dropped audits
        ⟨_, answered, Response.tells_json ..⟩

/-- A review makes the calls of its authenticator, and writes messages. -/
theorem only_createTokenReview {p : Call → Prop}
    (told : ∀ severity text, p (.record (.message severity text)))
    (h : ∀ authenticate, app.reviewer.authenticator = some authenticate →
      ∀ credentials, (authenticate credentials).Only p)
    (ns : Option String) (request : Request) : (app.createTokenReview ns request).Only p := by
  unfold createTokenReview
  split
  · trivial
  · refine (Reviewer.only_create told h ns _).bind fun reviewed => ?_
    cases reviewed <;> trivial

/-- A review of a posted body notes a use in the token under review at most. -/
theorem ends_createTokenReview (parts : app.PartsNote timeout) {ns : Option String}
    {request : Request} (ends : (app.createTokenReview ns request).Ends w heard outcome w') :
    Fails w outcome w' ∨ ∃ review, Server.readBody TokenReview.record request = .ok review ∧
      w'.audits = w.audits ∧
      w.SameUpTo (fun name => timeout ≠ none ∧ app.reviewer.Uses review name heard) w' := by
  have audits := ends.audits (only_createTokenReview (fun _ _ => rfl)
    (fun authenticate isSome credentials => (parts.reviewer authenticate isSome credentials).only)
    ns request)
  unfold createTokenReview at ends
  split at ends
  · exact .inl (fails_of_refusal (Server.BodyError.not_isSuccess_response _) ends)
  · rename_i review readable
    refine .inr ⟨review, readable, audits, ?_⟩
    obtain ⟨reviewed, before, after, w₁, rfl, first, second⟩ | ⟨-, first⟩ := Task.Ends.of_bind ends
    · have told : w₁.SameStores w' := second.sameStores (by cases reviewed <;> trivial)
      refine ((Reviewer.sameUpTo_create parts.reviewer first).mono ?_).trans told.sameUpTo
      rintro name ⟨limited, uses⟩
      exact ⟨limited, uses.append after⟩
    · exact Reviewer.sameUpTo_create parts.reviewer first

/-- A segment that cannot be decoded is a failure, and another one is gone on with decoded. -/
theorem ends_decoding {segment : String} {next : String → Task Response}
    (ends : (decoding segment next).Ends w heard outcome w') :
    Fails w outcome w' ∨ ∃ text, Http.Percent.decodeText? segment = some text ∧
      (next text).Ends w heard outcome w' := by
  unfold decoding at ends
  split at ends
  · exact .inr ⟨_, ‹_›, ends⟩
  · exact .inl (fails_of_refusal (fun success => absurd success.2 (by decide)) ends)

/-- **What a request does that is let through.** -/
theorem effect_of_ends_dispatch (parts : app.PartsNote timeout) {route : Route}
    {caller : Identity} {request : Request}
    (ends : (app.dispatch route caller request).Ends w heard outcome w') :
    app.EffectFor timeout route caller request w heard outcome w' := by
  unfold dispatch at ends
  split at ends
  · rename_i endpoint found
    have behind := Route.isBehind_of_endpoint? found
    -- reviews have two endpoints
    have review {ns : Option String} (reviews : route.isReview = true)
        (method : request.method = "POST")
        (ends : (app.createTokenReview ns request).Ends w heard outcome w') :
        app.EffectFor timeout route caller request w heard outcome w' := by
      obtain fails | ⟨review, body, audits, upTo⟩ := ends_createTokenReview parts ends
      · exact .failed fails
      · exact .noted reviews method body audits upTo
    cases endpoint with
    | checkHealth => exact .read (ends.intact trivial) behind
    | checkReadiness => exact .read (ends.intact isQuiet_checkReadiness) behind
    | describe => exact .read (ends.intact trivial) behind
    | showReference => exact .read (ends.intact trivial) behind
    | createTokenReview ns =>
      cases ns with
      | none =>
        obtain ⟨rfl, method⟩ := behind
        exact review rfl method ends
      | some segment =>
        obtain ⟨rfl, method⟩ := behind
        obtain fails | ⟨ns, -, ends⟩ := ends_decoding ends
        · exact .failed fails
        · exact review rfl method ends
    | createAccessToken =>
      obtain ⟨rfl, method⟩ := behind
      exact ends_create (c := .accessTokens) parts method ends
    | createUser =>
      obtain ⟨rfl, method⟩ := behind
      exact ends_create (c := .users) parts method ends
    | getAccessToken segment =>
      obtain fails | ⟨name, -, ends⟩ := ends_decoding ends
      · exact .failed fails
      · exact .read (ends.intact (isQuiet_get .accessTokens name)) behind
    | getUser segment =>
      obtain fails | ⟨name, -, ends⟩ := ends_decoding ends
      · exact .failed fails
      · exact .read (ends.intact (isQuiet_get .users name)) behind
    | deleteAccessToken segment =>
      obtain ⟨rfl, method⟩ := behind
      obtain fails | ⟨name, decoded, ends⟩ := ends_decoding ends
      · exact .failed fails
      · exact ends_deleteAccessToken parts method decoded ends
  · exact .failed (fails_of_refusal (fun success => absurd success.2 (by decide)) ends)

end Endpoints

end App

end TokenAuthority
