/-
# What a request leaves unchanged

Before a request for a protected route does anything, its caller is authenticated, and that may note
the use of a token. So a request can leave a trace even if it is refused or fails later on:

| request | answer | the stores afterwards |
| --- | --- | --- |
| any | no success | as before |
| `GET` or `HEAD`, or for a review | any | as before |
| `POST` of an object | success | with the object, whose name was free |
| `DELETE` of a token | success | without the token |

all of this up to the notes of uses (`App.answer_sameUpTo`). Uses are noted only if there is an
inactivity timeout, and only in the token that the caller is accepted by (`App.Uses`), and in a
review also in the token under review, if that is accepted (`App.UsesReviewed`).
-/

import TokenAuthority.Proofs.Effects
import TokenAuthority.Proofs.Lifetimes

namespace TokenAuthority

open Http (Request Response)
open Resource (TokenReview)
open Server (Route)

/-- Reviews are protected. -/
theorem Server.Route.isProtected_of_isReview {route : Route} (reviews : route.isReview = true) :
    route.isProtected = true := by
  cases route <;> first | rfl | cases reviews

namespace App

/-- In what is heard, the caller of a request is accepted by the token that it carries, which is
stored under a name. -/
inductive Uses (app : App Task) (request : Request) (heard : List Exchange) (name : String) :
    Prop where
  | intro {verdict : Verdict} {before after : List Exchange}
      (carried : Credentials.tokenName? { headers := request.headers } = some name)
      (split : heard = before ++ after)
      (ends : (app.authenticator { headers := request.headers }).After before (.done verdict))
      (accepts : verdict.Accepts)

/-- In what is heard, a request that posts a review is let through, and then the token under review,
which is stored under a name, is accepted. -/
inductive UsesReviewed (app : App Task) (request : Request) (heard : List Exchange)
    (name : String) : Prop where
  | intro {route : Route} {review : TokenReview} {caller : Identity} {before after : List Exchange}
      (matched : Route.ofPath request.path = some route) (reviews : route.isReview = true)
      (method : request.method = "POST")
      (body : Server.readBody TokenReview.record request = .ok review)
      (split : heard = before ++ after)
      (passed : (app.screen request).After before (.done (.ok caller)))
      (uses : app.reviewer.Uses review name after)

/-- In what is heard first, the filters let a request through on behalf of a caller. -/
def LetsThrough (app : App Task) (request : Request) (heard : List Exchange)
    (caller : Identity) : Prop :=
  ∃ before after, heard = before ++ after ∧
    (app.screen request).After before (.done (.ok caller))

/-- The course of a request: it is refused, or served by its route. -/
inductive Course (app : App Task) (timeout : Option UInt64) (request : Request) (w : World)
    (heard : List Exchange) (outcome : Option Response) (w' : World) : Prop where
  | refused
      (denied : ∀ route, Route.ofPath request.path = some route →
        ∀ caller, ¬app.LetsThrough request heard caller)
      (upTo : w.SameUpTo (fun name => timeout ≠ none ∧ app.Uses request heard name) w')
      (audits : w'.audits = w.audits)
      (unsuccessful : ∀ response, outcome = some response → ¬response.IsSuccess)
  | served {route : Route} {caller : Identity} {w₁ : World} {before after : List Exchange}
      {answer : Option Response} (matched : Route.ofPath request.path = some route)
      (split : heard = before ++ after)
      (passed : route.isProtected = true →
        (app.screen request).After before (.done (.ok caller)))
      (upTo : w.SameUpTo (fun name => timeout ≠ none ∧ app.Uses request heard name) w₁)
      (audits : w₁.audits = w.audits)
      (ends : (app.dispatch route caller request).Ends w₁ after answer w')
      (told : outcome = answer.map (finish route request.method))

/-- What was heard of a use is not undone by what is heard later. -/
theorem Uses.append {app : App Task} {request : Request} {heard : List Exchange} {name : String}
    (uses : app.Uses request heard name) (later : List Exchange) :
    app.Uses request (heard ++ later) name := by
  obtain ⟨carried, rfl, ends, accepts⟩ := uses
  exact ⟨carried, List.append_assoc .., ends, accepts⟩

section Filters

variable {app : App Task} {timeout : Option UInt64} {request : Request} {w w' : World}
  {heard : List Exchange}

/-- Authenticating a caller changes a world by the note of a use of its token, at most. -/
theorem sameUpTo_authenticate (parts : app.PartsNote timeout)
    {outcome : Option (Except Response Identity)}
    (ends : (app.authenticate request).Ends w heard outcome w') :
    w.SameUpTo (fun name => timeout ≠ none ∧ app.Uses request heard name) w' := by
  have notes := parts.authenticator { headers := request.headers }
  unfold authenticate at ends
  dsimp only at ends
  split at ends
  · exact (ends.sameStores ⟨rfl, fun _ => trivial⟩).sameUpTo
  · obtain ⟨verdict, before, after, w₁, split, first, second⟩ | ⟨-, first⟩ :=
      Task.Ends.of_bind ends
    · have told : w₁.SameStores w' := by
        refine second.sameStores ?_
        rcases verdict with e | _ | accepted
        · exact ⟨rfl, fun _ => trivial⟩
        all_goals trivial
      refine ((notes.of_some first).mono ?_).trans told.sameUpTo
      rintro name ⟨carried, limited, accepts⟩
      exact ⟨limited, carried, split, first.after, accepts⟩
    · exact notes.of_not_accepts first nofun

/-- The filters note no use but that of the token that the caller is accepted by. -/
theorem sameUpTo_screen (parts : app.PartsNote timeout) {route : Route}
    (matched : Route.ofPath request.path = some route) (guarded : route.isProtected = true)
    {outcome : Option (Except Response Identity)}
    (ends : (app.screen request).Ends w heard outcome w') :
    w.SameUpTo (fun name => timeout ≠ none ∧ app.Uses request heard name) w' := by
  obtain ⟨policy, decides⟩ := parts.authorizer
  obtain ⟨known, before, after, w₁, rfl, first, second⟩ | ⟨-, first⟩ := Task.Ends.of_bind ends
  · -- authorization makes no calls, so nothing is noted but by authentication
    have told : w₁.SameStores w' := by
      cases known with
      | error refusal => exact second.sameStores trivial
      | ok caller =>
        obtain ⟨decision, decided⟩ := exists_authorize_eq_done decides matched guarded caller
        dsimp only at second
        rw [decided] at second
        exact second.sameStores (by cases decision <;> trivial)
    refine ((sameUpTo_authenticate parts first).mono ?_).trans told.sameUpTo
    rintro name ⟨limited, uses⟩
    exact ⟨limited, uses.append after⟩
  · exact sameUpTo_authenticate parts first

end Filters

/-! ### Requests -/

section Requests

variable {app : App Task} {timeout : Option UInt64} {request : Request} {w w' : World}
  {heard : List Exchange} {outcome : Option Response}

/-- What is told of a response does not matter. -/
theorem EffectFor.finish {route : Route} {caller : Identity}
    (effect : app.EffectFor timeout route caller request w heard outcome w') :
    app.EffectFor timeout route caller request w heard
      (outcome.map (App.finish route request.method)) w' := by
  have told {status : Nat} {value : Json.Value}
      (answered : ∃ response, outcome = some response ∧ response.Tells status value) :
      ∃ response, outcome.map (App.finish route request.method) = some response ∧
        response.Tells status value := by
    obtain ⟨response, rfl, tells⟩ := answered
    exact ⟨_, rfl, tells.finish route request.method⟩
  cases effect with
  | failed fails =>
    refine .failed ⟨fails.intact, ?_⟩
    rintro _ finished
    obtain ⟨response, rfl, rfl⟩ := Option.map_eq_some_iff.1 finished
    exact fails.unsuccessful response rfl
  | read intact method => exact .read intact method
  | noted reviews method body audits upTo => exact .noted reviews method body audits upTo
  | created isRoute method body faultless admitted new put audits answered =>
    exact .created isRoute method body faultless admitted new put audits (told answered)
  | deleted isRoute method decoded looked admitted present dropped audits answered =>
    exact .deleted isRoute method decoded looked admitted present dropped audits (told answered)

/-- **A request is refused by the filters, or let through and then served by its route.** -/
theorem course_of_ends_answer (parts : app.PartsNote timeout)
    (ends : (app.answer request).Ends w heard outcome w') :
    app.Course timeout request w heard outcome w' := by
  cases matched : Route.ofPath request.path with
  | none =>
    unfold answer at ends
    rw [matched] at ends
    obtain ⟨intact, unsuccessful⟩ :=
      fails_of_refusal (fun success => absurd success.2 (by decide)) ends
    refine .refused (fun route isRoute => ?_) intact.stores.sameUpTo intact.audits unsuccessful
    cases matched.symm.trans isRoute
  | some route =>
    by_cases guarded : route.isProtected = true
    · rw [answer_eq app matched guarded] at ends
      have noUse : (app.screen request).Only (·.usesAtMost = true) := by
        obtain ⟨policy, decides⟩ := parts.authorizer
        exact only_screen app (fun _ _ => rfl) (fun credentials =>
          (parts.authenticator credentials).only) decides matched guarded
      obtain ⟨screened, before, after, w₁, rfl, first, second⟩ | ⟨rfl, first⟩ := ends.of_bind
      · have noted : w.SameUpTo
            (fun name => timeout ≠ none ∧ app.Uses request (before ++ after) name) w₁ :=
          (sameUpTo_screen parts matched guarded first).mono fun name noted =>
            ⟨noted.1, noted.2.append after⟩
        have audits := first.audits noUse
        cases screened with
        | error refusal =>
          have refused : ¬(App.finish route request.method refusal).IsSuccess := by
            have yields : (app.screen request).Yields _ [] := yields_screen request
            exact yields.after first.after refusal rfl
          obtain ⟨intact, unsuccessful⟩ := fails_of_refusal refused second
          refine .refused (fun _ _ caller passes => ?_) (noted.trans intact.stores.sameUpTo)
            (intact.audits.trans audits) unsuccessful
          obtain ⟨before', after', same, passed⟩ := passes
          cases (first.after.unique trivial passed trivial same).1
        | ok caller =>
          obtain ⟨answer, told, second⟩ := second.of_map
          exact .served matched rfl (fun _ => first.after) noted audits second told
      · refine .refused (fun _ _ caller passes => ?_) (sameUpTo_screen parts matched guarded first)
          (first.audits noUse) nofun
        obtain ⟨before, after, same, passed⟩ := passes
        rw [← List.append_nil heard] at same
        cases (first.after_of_none.unique trivial passed trivial same).1
    · unfold answer guard at ends
      rw [matched] at ends
      dsimp only at ends
      rw [if_neg guarded] at ends
      obtain ⟨answer, told, ends⟩ := ends.of_map
      exact .served matched (List.nil_append heard).symm (fun isGuarded => absurd isGuarded guarded)
        (World.SameStores.refl w).sameUpTo rfl ends told

/-- So what it does is told by its route, after the notes of uses. -/
theorem effectFor_of_ends_answer (parts : app.PartsNote timeout)
    (ends : (app.answer request).Ends w heard outcome w') :
    (w.SameUpTo (fun name => timeout ≠ none ∧ app.Uses request heard name) w' ∧
      w'.audits = w.audits ∧ ∀ response, outcome = some response → ¬response.IsSuccess) ∨
    ∃ route caller w₁ before after, Route.ofPath request.path = some route ∧
      heard = before ++ after ∧
      w.SameUpTo (fun name => timeout ≠ none ∧ app.Uses request heard name) w₁ ∧
      w₁.audits = w.audits ∧
      (route.isProtected = true → (app.screen request).After before (.done (.ok caller))) ∧
      app.EffectFor timeout route caller request w₁ after outcome w' := by
  cases course_of_ends_answer parts ends with
  | refused denied upTo audits unsuccessful => exact .inl ⟨upTo, audits, unsuccessful⟩
  | served matched split passed upTo audits served told =>
    have effect := (effect_of_ends_dispatch parts served).finish
    rw [← told] at effect
    exact .inr ⟨_, _, _, _, _, matched, split, upTo, audits, passed, effect⟩

/-- A request is no success and changes a world by the note of a use, at most, or it is let through
and has the effect of its route. -/
theorem effect_of_ends_answer (parts : app.PartsNote timeout)
    (ends : (app.answer request).Ends w heard outcome w') :
    (w.SameUpTo (fun name => timeout ≠ none ∧ app.Uses request heard name) w' ∧
      ∀ response, outcome = some response → ¬response.IsSuccess) ∨
    ∃ route w₁ before after, Route.ofPath request.path = some route ∧ heard = before ++ after ∧
      w.SameUpTo (fun name => timeout ≠ none ∧ app.Uses request heard name) w₁ ∧
      (route.isProtected = true →
        ∃ caller, (app.screen request).After before (.done (.ok caller))) ∧
      app.Effect timeout route request w₁ after outcome w' := by
  obtain ⟨upTo, -, unsuccessful⟩ | ⟨route, caller, w₁, before, after, matched, split, upTo, -,
    passed, effect⟩ := effectFor_of_ends_answer parts ends
  · exact .inl ⟨upTo, unsuccessful⟩
  · exact .inr ⟨route, w₁, before, after, matched, split, upTo,
      fun guarded => ⟨caller, passed guarded⟩, caller, effect⟩

end Requests

/-- **The parts of an application note uses at most.** -/
theorem partsNote_of_assemble {s : Settings} {tokens : List StaticToken}
    {policy : List PolicyRule} {post : Webhook.Transport Task}
    {configuration : String → ExceptT String Task (Option String)} {app : App Task} {w w' : World}
    (assembled : (assemble s tokens policy post configuration).run w = (some (.ok app), w'))
    (inert : ∀ url seconds review, ∃ reply, post url seconds review = .done reply) :
    app.PartsNote s.authentication.inactivityTimeout := by
  obtain ⟨review, rfl, reviewed⟩ := exists_parts_of_assemble assembled
  have stored (token : String) (audiences : Option Audiences) :
      (storedTokens s token audiences : Task Verdict).NotesUse s.authentication.inactivityTimeout
        (· = TokenName.ofToken token) Verdict.Accepts :=
    TokenAuthenticator.notesUse_accessTokens _ token audiences
  refine ⟨fun credentials => ?_, ⟨policy, rfl⟩, fun plugin mem change => ?_, ?_⟩
  · refine RequestAuthenticator.notesUse_bearer (fun token audiences => ?_) credentials
    refine TokenAuthenticator.notesUse_firstAccepted (fun member mem => ?_) []
    rcases List.mem_pair.1 mem with rfl | rfl
    · exact Task.notesUse_done _
    · exact stored token audiences
  · rw [eq_of_mem_enabledPlugins mem]
    exact Admission.AuditLogouts.isQuiet_validate change
  · intro authenticate isSome credentials
    obtain ⟨delegate, rfl, rfl⟩ := Option.map_eq_some_iff.1 isSome
    have notes : (RequestAuthenticator.bearer delegate credentials).NotesUse
        s.authentication.inactivityTimeout (credentials.tokenName? = some ·) Verdict.Accepts := by
      refine RequestAuthenticator.notesUse_bearer (fun token audiences => ?_) credentials
      unfold ReviewsBy at reviewed
      split at reviewed
      · obtain rfl := Option.some.inj reviewed
        exact TokenAuthenticator.notesUse_audienceAgnostic (stored token none) _ audiences
      · obtain ⟨url, seconds, reviewed⟩ := reviewed
        obtain rfl := Option.some.inj reviewed
        exact (TokenAuthenticator.isQuiet_webhook inert url seconds token audiences).notesUse
      · cases reviewed
    refine notes.bind (fun _ => trivial) fun verdict w w' heard outcome accepts ends => ?_
    obtain ⟨-, rfl, -⟩ := ends.of_done
    exact ⟨_, rfl, accepts⟩

/-- **A request that fails or only reads leaves the stores as they were, up to notes of uses.** Let
an application be assembled from any settings, and let it answer a request, on its own, in any
world. If it answers no success, or the method is `GET` or `HEAD`, or the request is for a review,
then all users are the same afterwards, there are tokens of the same names, and each is the same but
for its inactivity timeout if a use was noted. If it answers success to a `POST` of an object, then
the object has been put in, under a name that was free, and if to a `DELETE`, the token of that name
has been taken out, and nothing else is different.

A use is noted only if there is an inactivity timeout, and only in the token that the caller was
accepted by; and in a review also in the token under review, if that was accepted. -/
theorem answer_sameUpTo {s : Settings} {tokens : List StaticToken} {policy : List PolicyRule}
    {post : Webhook.Transport Task} {configuration : String → ExceptT String Task (Option String)}
    {app : App Task} {w₀ w₀' : World}
    (assembled : (assemble s tokens policy post configuration).run w₀ = (some (.ok app), w₀'))
    (inert : ∀ url seconds review, ∃ reply, post url seconds review = .done reply)
    {request : Request} {w w' : World} {heard : List Exchange} {outcome : Option Response}
    (ends : (app.answer request).Ends w heard outcome w') :
    let limited := s.authentication.inactivityTimeout ≠ none
    let caller name := limited ∧ app.Uses request heard name
    let reviewed name := limited ∧ app.UsesReviewed request heard name
    ((∀ response, outcome = some response → ¬response.IsSuccess) ∨ request.method = "GET" ∨
        request.method = "HEAD" ∨
        (∃ route, Route.ofPath request.path = some route ∧ route.isReview = true) →
      w.SameUpTo (fun name => caller name ∨ reviewed name) w') ∧
    (∀ response, outcome = some response → response.IsSuccess → request.method = "POST" →
      ∀ c : Collection, Route.ofPath request.path = some c.route →
        ∃ posted now, Server.readBody c.record request = .ok posted ∧
          (w.store c).find? (Stored.name posted) = none ∧
          (w.withStore c ((w.store c).put (Stored.stamp posted now))).SameUpTo caller w') ∧
    (∀ response, outcome = some response → response.IsSuccess → request.method = "DELETE" →
      ∃ segment name token, Route.ofPath request.path = some (.accessToken segment) ∧
        Http.Percent.decodeText? segment = some name ∧
        w.accessTokens.find? name = some token ∧
        { w with accessTokens := w.accessTokens.drop name }.SameUpTo caller w') := by
  intro limited caller reviewed
  have parts := partsNote_of_assemble assembled inert
  obtain ⟨noted, unsuccessful⟩ | ⟨route, w₁, before, after, matched, split, noted, passed,
    effect⟩ := effect_of_ends_answer parts ends
  · exact ⟨fun _ => noted.mono fun name => .inl,
      fun response answered success => absurd success (unsuccessful response answered),
      fun response answered success => absurd success (unsuccessful response answered)⟩
  · refine ⟨fun h => ?_, fun response answered success post c isRoute => ?_,
      fun response answered success delete => ?_⟩
    · simp only [matched, Option.some.injEq, exists_eq_left'] at h
      -- the filters note the use of the one token, the review that of the other
      refine (noted.mono fun name => .inl).trans ((effect.sameUpTo h).mono ?_)
      rintro name ⟨reviews, method, review, body, limited, uses⟩
      obtain ⟨user, passed⟩ := passed (Route.isProtected_of_isReview reviews)
      exact .inr ⟨limited, matched, reviews, method, body, split, passed, uses⟩
    · obtain ⟨posted, now, body, new, put⟩ := effect.of_post answered success post
        (Option.some.inj (matched.symm.trans isRoute))
      exact ⟨posted, now, body, (noted.find?_eq_none_iff c _).1 new,
        (noted.put c _).trans put.sameUpTo⟩
    · obtain ⟨segment, name, token, rfl, decoded, present, dropped⟩ :=
        effect.of_delete answered success delete
      -- the token taken out may be that of the caller, with its use noted
      obtain ⟨token', present'⟩ : ∃ token', w.accessTokens.find? name = some token' := by
        refine Option.ne_none_iff_exists'.1 fun missing => ?_
        have missing := (noted.find?_eq_none_iff .accessTokens name).2 missing
        exact absurd (present.symm.trans missing) nofun
      exact ⟨segment, name, token', matched, decoded, present',
        (noted.drop name).trans dropped.sameUpTo⟩

/-- The hypotheses of `answer_sameUpTo` are satisfiable: the holder of a token is refused, but the
use of the token is noted, and nothing else changes. -/
theorem answer_sameUpTo_refused :
    let s : Settings := { authentication := { inactivityTimeout := some 300 } }
    let answered := ((selfContained s [] []).answer (.getAlice "tok")).run .aliceHolds
    answered.1.map (·.status) = some 403 ∧
      (answered.2.accessTokens.find? "tok").map (·.inactivityTimeout) = some 300 ∧
      World.aliceHolds.SameUpTo (· = "tok") answered.2 := by
  intro s answered
  have status : answered.1.map (·.status) = some 403 := by decide +kernel
  have noted : (answered.2.accessTokens.find? "tok").map (·.inactivityTimeout) = some 300 := by
    decide +kernel
  obtain ⟨w₀', assembled⟩ := run_assemble_selfContained (s := s) rfl (by decide +kernel) [] []
    (fun _ _ _ => .done none) .aliceHolds
  obtain ⟨heard, ends⟩ :=
    Task.exists_ends_run ((selfContained s [] []).answer (.getAlice "tok")) .aliceHolds
  obtain ⟨unchanged, -, -⟩ := answer_sameUpTo assembled (fun _ _ _ => ⟨_, rfl⟩) ends
  refine ⟨status, noted, (unchanged (.inr (.inl rfl))).mono ?_⟩
  have carried : Credentials.tokenName? { headers := (Request.getAlice "tok").headers } =
      some "tok" := by decide +kernel
  have matched : Route.ofPath (Request.getAlice "tok").path = some (.user "alice") := by decide
  rintro name (⟨-, ⟨carries, -⟩⟩ | ⟨-, ⟨isRoute, reviews, -⟩⟩)
  · exact Option.some.inj (carries.symm.trans carried)
  · obtain rfl := Option.some.inj (isRoute.symm.trans matched)
    cases reviews

end App

end TokenAuthority
