/-
# The filters before the protected routes

A request for a protected route, which is one below `/apis` (`Route.isProtected_iff`), is let
through if and only if its bearer token stands for a user whom the route permits the method
(`App.answer_of_isProtected`):

| the token stands for | the method is | answer |
| --- | --- | --- |
| nobody, or authentication fails | | 401 |
| a user | not permitted | 403 |
| a user | permitted | that of the route |

`Route.Permits` is stated over the route, the method and the rules. The authorizer decides by what
it reads from the path once more, and comes to the same (`App.authorize_of_permits`,
`App.authorize_of_not_permits`). It makes no calls and never fails.
-/

import Mathlib.Data.List.Forall2
import TokenAuthority.Proofs.Frame
import TokenAuthority.Proofs.RouteAttributes
import TokenAuthority.Server.Assembly

namespace TokenAuthority

open Http (Request Response)
open Server (Route)

namespace PolicyRule

/-- A list of a rule names something, itself or by the wildcard. -/
def Names (list : List String) (wanted : String) : Prop :=
  wildcard ∈ list ∨ wanted ∈ list

/-- A rule is for a user, by name or by a group. -/
def AppliesTo (r : PolicyRule) (user : Identity) : Prop :=
  Names r.users user.name ∨ ∃ group ∈ user.groups, Names r.groups group

/-- A rule grants a verb on a resource of a group. -/
structure Grants (r : PolicyRule) (verb apiGroup resource : String) : Prop where
  verb : Names r.verbs verb
  apiGroup : Names r.apiGroups apiGroup
  resource : Names r.resources resource

/-- The program finds out whether a list names something. -/
theorem names_iff {list : List String} {wanted : String} :
    names list wanted = true ↔ Names list wanted := by
  simp only [names, Names, List.any_eq_true, Bool.or_eq_true, decide_eq_true_eq]
  constructor
  · rintro ⟨entry, mem, rfl | rfl⟩
    · exact .inl mem
    · exact .inr mem
  · rintro (mem | mem)
    · exact ⟨_, mem, .inl rfl⟩
    · exact ⟨_, mem, .inr rfl⟩

/-- The program finds out whether a rule is for a user. -/
theorem appliesTo_iff {r : PolicyRule} {user : Identity} :
    r.appliesTo user = true ↔ r.AppliesTo user := by
  simp only [appliesTo, AppliesTo, Bool.or_eq_true, List.any_eq_true, names_iff]

/-- A rule allows a request for a resource if it is for the caller and grants the verb. -/
theorem allows_iff {r : PolicyRule} {a : Attributes} {user : Identity} (asker : a.user = some user)
    (isResource : a.isResource = true) (whole : a.subresource = "") :
    r.allows a = true ↔ r.AppliesTo user ∧ r.Grants a.verb a.apiGroup a.resource := by
  have text : resourceText a = a.resource := if_pos whole
  simp only [allows, asker, permits, isResource, text, if_true, Bool.and_eq_true, appliesTo_iff,
    names_iff]
  exact and_congr_right fun _ =>
    ⟨fun h => ⟨h.1, h.2.1, h.2.2⟩, fun h => ⟨h.verb, h.apiGroup, h.resource⟩⟩

end PolicyRule

namespace Authorizer

/-- An authorizer says at once that it allows, if something holds, and has no opinion otherwise. -/
def Says (t : Task (Except AuthorizationError Authorization)) (p : Prop) : Prop :=
  (p ∧ ∃ reason, t = .done (.ok ⟨.allow, reason⟩)) ∨
    (¬p ∧ ∃ reason, t = .done (.ok ⟨.noOpinion, reason⟩))

/-- What is said by a condition is said by an equivalent one. -/
theorem Says.iff {t : Task (Except AuthorizationError Authorization)} {p q : Prop} (h : Says t p)
    (pq : p ↔ q) : Says t q :=
  propext pq ▸ h

/-- The reviewing account is allowed to post token reviews, and nothing else is said. -/
theorem says_tokenReviewer (a : Attributes) :
    Says (tokenReviewer a) (isReviewByReviewer a = true) := by
  by_cases h : isReviewByReviewer a = true
  · exact .inl ⟨h, _, by rw [tokenReviewer, if_pos h]; rfl⟩
  · exact .inr ⟨h, _, by rw [tokenReviewer, if_neg h]; rfl⟩

/-- Rules allow what one of them allows, and say nothing else. -/
theorem says_rules (policy : List PolicyRule) (a : Attributes) :
    Says (rules policy a) (∃ rule ∈ policy, rule.allows a = true) := by
  cases found : policy.findIdx? (·.allows a) with
  | none =>
    refine .inr ⟨?_, _, by rw [rules, found]; rfl⟩
    rintro ⟨rule, mem, allows⟩
    exact Bool.false_ne_true ((List.findIdx?_eq_none_iff.1 found rule mem).symm.trans allows)
  | some index =>
    refine .inl ⟨?_, _, by rw [rules, found]; rfl⟩
    have isSome : (policy.findIdx? (·.allows a)).isSome = true := by rw [found]; rfl
    rw [List.findIdx?_isSome, List.any_eq_true] at isSome
    exact isSome

/-- Of members that neither deny nor fail, the union allows what one of them allows. -/
theorem says_firstDecision {a : Attributes} {members : List (Authorizer Task)}
    {conditions : List Prop}
    (h : List.Forall₂ (fun member p => Says (member a) p) members conditions)
    (reasons : List String) :
    Says (firstDecision a members reasons []) (conditions.foldr Or False) := by
  induction h generalizing reasons with
  | nil => exact .inr ⟨id, _, rfl⟩
  | cons first others ih =>
    unfold firstDecision
    rcases first with ⟨holds, reason, said⟩ | ⟨fails, reason, said⟩
    · exact .inl ⟨.inl holds, reason, by rw [said]; rfl⟩
    · rw [said]
      exact (ih _).iff (or_iff_right fails).symm

/-- What the application's authorizer allows. -/
theorem says_union (policy : List PolicyRule) (a : Attributes) :
    Says (union [tokenReviewer, rules policy] a)
      (isReviewByReviewer a = true ∨ ∃ rule ∈ policy, rule.allows a = true) :=
  (says_firstDecision (.cons (says_tokenReviewer a) (.cons (says_rules policy a) .nil)) []).iff
    (or_congr_right (or_iff_left id))

end Authorizer

namespace Server.Route

/-- A route permits a user a method: to the reviewing account that it reviews a token, and to anyone
else what a rule grants. -/
def Permits (route : Route) (policy : List PolicyRule) (method : String) (user : Identity) : Prop :=
  (user.name = Authorizer.reviewerAccount ∧ method = "POST" ∧ route.isReview = true) ∨
    ∃ rule ∈ policy, rule.AppliesTo user ∧
      rule.Grants (route.verb method) route.apiGroup route.resource

/-- Only `POST` creates. -/
theorem verb_eq_create_iff {route : Route} {method : String} :
    route.verb method = "create" ↔ method = "POST" := by
  unfold verb
  repeat' split
  all_goals simp_all

/-- The routes of reviews are those of their group and resource. -/
theorem isReview_iff {route : Route} :
    route.isReview = true ↔
      route.apiGroup = Resource.oauthGroup ∧ route.resource = Resource.tokenReviews := by
  cases route <;> simp [isReview, apiGroup, resource, Resource.oauthGroup, Resource.tokenReviews,
    Resource.accessTokens, Resource.userGroup, Resource.users]

end Server.Route

/-- What is asked for at a route is allowed if the route permits it. -/
theorem Attributes.allowed_iff_permits {a : Attributes} {route : Route} {method : String}
    {user : Identity} {policy : List PolicyRule} (asker : a.user = some user)
    (isResource : a.isResource = true) (apiGroup : a.apiGroup = route.apiGroup)
    (resource : a.resource = route.resource) (whole : a.subresource = "")
    (verb : a.verb = route.verb method) :
    (Authorizer.isReviewByReviewer a = true ∨ ∃ rule ∈ policy, rule.allows a = true) ↔
      route.Permits policy method user := by
  have name : a.userName = user.name := by rw [Attributes.userName, asker]; rfl
  refine or_congr ?_ (exists_congr fun rule => and_congr_right fun _ => ?_)
  · simp only [Authorizer.isReviewByReviewer, Bool.and_eq_true, decide_eq_true_eq, name, isResource,
      verb, apiGroup, resource, whole, Route.verb_eq_create_iff, Route.isReview_iff, and_true,
      and_assoc]
  · rw [PolicyRule.allows_iff asker isResource whole, verb, apiGroup, resource]

/-- The user that a verdict accepts, if it does. -/
def Verdict.user? : Verdict → Option Identity
  | .ok (some accepted) => some accepted.user
  | _ => none

/-- A verdict that stands for a user accepts that user. -/
theorem Verdict.exists_of_user? {verdict : Verdict} {user : Identity}
    (known : verdict.user? = some user) :
    ∃ accepted, verdict = .ok (some accepted) ∧ accepted.user = user := by
  obtain e | _ | accepted := verdict
  · cases known
  · cases known
  · exact ⟨accepted, rfl, Option.some.inj known⟩

namespace App

section Authorize

variable {app : App Task} {policy : List PolicyRule} {request : Request} {route : Route}
  (decides : app.authorizer = .union [.tokenReviewer, .rules policy])
  (matched : Route.ofPath request.path = some route) (guarded : route.isProtected = true)
include decides matched guarded

/-- Who is permitted is authorized. -/
theorem authorize_of_permits {user : Identity} (h : route.Permits policy request.method user) :
    app.authorize request user = .done (.ok ()) := by
  obtain ⟨isResource, asker, -, apiGroup, resource, whole, -, verb⟩ :=
    Attributes.resolve_of_ofPath request.method (some user) matched guarded
  obtain ⟨-, reason, said⟩ | ⟨refused, -⟩ := (Authorizer.says_union policy _).iff
    (Attributes.allowed_iff_permits asker isResource apiGroup resource whole verb)
  · unfold authorize
    dsimp only
    rw [decides, said]
    rfl
  · exact absurd h refused

/-- Who is not permitted is answered 403, with what was asked for. -/
theorem authorize_of_not_permits {user : Identity}
    (h : ¬route.Permits policy request.method user) :
    app.authorize request user = .done (.error (.ofFailure (.forbidden
      (forbiddenMessage (.resolve request.method request.path (some user)))))) := by
  obtain ⟨isResource, asker, -, apiGroup, resource, whole, -, verb⟩ :=
    Attributes.resolve_of_ofPath request.method (some user) matched guarded
  obtain ⟨allowed, -⟩ | ⟨-, reason, said⟩ := (Authorizer.says_union policy _).iff
    (Attributes.allowed_iff_permits asker isResource apiGroup resource whole verb)
  · exact absurd allowed h
  · unfold authorize
    dsimp only
    rw [decides, said]
    rfl

/-- Authorization makes no calls. -/
theorem exists_authorize_eq_done (user : Identity) :
    ∃ outcome, app.authorize request user = .done outcome := by
  by_cases permits : route.Permits policy request.method user
  · exact ⟨_, authorize_of_permits decides matched guarded permits⟩
  · exact ⟨_, authorize_of_not_permits decides matched guarded permits⟩

end Authorize

/-- A caller is known by the verdict on the bearer token, and is unauthorized without one. -/
theorem run_authenticate {app : App Task} {request : Request} {delegate : TokenAuthenticator Task}
    {verdict : Verdict} {w w' : World} (bearer : app.authenticator = .bearer delegate)
    (h : (app.authenticator { headers := request.headers }).run w = (some verdict, w')) :
    ∃ w₁, (app.authenticate request).run w =
      (some ((Verdict.user? verdict).elim (.error (.ofFailure (.unauthorized "Unauthorized"))) .ok),
        w₁) := by
  unfold authenticate
  dsimp only
  cases field : Http.Header.first? request.headers Bearer.fieldName with
  | none =>
    obtain rfl : .ok none = verdict := by
      rw [bearer, RequestAuthenticator.bearer, field] at h
      exact Option.some.inj (congrArg Prod.fst h)
    exact ⟨_, rfl⟩
  | some field =>
    rw [if_neg (by simp)]
    rw [Task.bind_eq, Task.run_bind_of_some h]
    rcases verdict with e | _ | accepted
    · exact ⟨_, rfl⟩
    · exact ⟨_, rfl⟩
    · exact ⟨_, rfl⟩

/-- Whom the filters let through, and how they refuse the others. -/
theorem run_screen (app : App Task) {policy : List PolicyRule} {request : Request} {route : Route}
    {delegate : TokenAuthenticator Task} {verdict : Verdict} {w w' : World}
    (bearer : app.authenticator = .bearer delegate)
    (decides : app.authorizer = .union [.tokenReviewer, .rules policy])
    (matched : Route.ofPath request.path = some route) (guarded : route.isProtected = true)
    (h : (app.authenticator { headers := request.headers }).run w = (some verdict, w')) :
    ∃ outcome w₁, (app.screen request).run w = (some outcome, w₁) ∧
      (∀ user, outcome = .ok user ↔
        Verdict.user? verdict = some user ∧ route.Permits policy request.method user) ∧
      ∀ refusal, outcome = .error refusal →
        refusal.status = if Verdict.user? verdict = none then 401 else 403 := by
  obtain ⟨w₁, ran⟩ := run_authenticate bearer h
  unfold screen
  rw [Task.bind_eq, Task.run_bind_of_some ran]
  cases Verdict.user? verdict with
  | none =>
    refine ⟨_, w₁, rfl, fun user => by simp, ?_⟩
    rintro refusal ⟨⟩
    rfl
  | some caller =>
    dsimp only [Option.elim_some]
    by_cases permits : route.Permits policy request.method caller
    · rw [authorize_of_permits decides matched guarded permits]
      refine ⟨_, w₁, rfl, fun user => ?_, by rintro refusal ⟨⟩⟩
      constructor
      · rintro ⟨⟩
        exact ⟨rfl, permits⟩
      · rintro ⟨⟨⟩, -⟩
        rfl
    · rw [authorize_of_not_permits decides matched guarded permits]
      refine ⟨_, w₁, rfl, fun user => ⟨by rintro ⟨⟩, ?_⟩, ?_⟩
      · rintro ⟨⟨⟩, permitted⟩
        exact absurd permitted permits
      · rintro refusal ⟨⟩
        rfl

/-- A protected route is answered behind its filters. -/
theorem answer_eq (app : App Task) {request : Request} {route : Route}
    (matched : Route.ofPath request.path = some route) (guarded : route.isProtected = true) :
    app.answer request = (app.screen request).bind fun
      | .ok user => finish route request.method <$> app.dispatch route user request
      | .error refusal => .done (finish route request.method refusal) := by
  unfold answer guard
  rw [matched]
  dsimp only
  rw [if_pos guarded, Task.bind_eq, Task.bind_eq, Task.bind_assoc]
  congr 1
  funext outcome
  cases outcome <;> rfl

/-- Authentication makes the calls of the authenticator, and writes messages. -/
theorem only_authenticate {app : App Task} {request : Request} {p : Call → Prop}
    (told : ∀ severity text, p (.record (.message severity text)))
    (h : ∀ credentials, (app.authenticator credentials).Only p) :
    (app.authenticate request).Only p := by
  unfold authenticate
  dsimp only
  split
  · exact ⟨told _ _, fun _ => trivial⟩
  · refine (h _).bind fun verdict => ?_
    rcases verdict with e | _ | accepted
    · exact ⟨told _ _, fun _ => trivial⟩
    · trivial
    · trivial

/-- The filters make the calls of the authenticator, and write messages. -/
theorem only_screen (app : App Task) {policy : List PolicyRule} {request : Request}
    {p : Call → Prop} (told : ∀ severity text, p (.record (.message severity text)))
    (h : ∀ credentials, (app.authenticator credentials).Only p)
    (decides : app.authorizer = .union [.tokenReviewer, .rules policy])
    {route : Route} (matched : Route.ofPath request.path = some route)
    (guarded : route.isProtected = true) : (app.screen request).Only p := by
  refine (only_authenticate told h).bind fun outcome => ?_
  rcases outcome with refusal | user
  · trivial
  · obtain ⟨outcome, decided⟩ := exists_authorize_eq_done decides matched guarded user
    dsimp only
    rw [decided]
    cases outcome <;> trivial

/-- Callers are authenticated without an object being created or deleted. -/
theorem only_keepsNames_callerAuthenticator (s : Settings) (tokens : List StaticToken)
    (credentials : Credentials) :
    (callerAuthenticator s tokens credentials : Task Verdict).Only (·.keepsNames = true) := by
  refine RequestAuthenticator.only_bearer (fun token audiences => ?_) credentials
  refine TokenAuthenticator.only_union fun member mem => ?_
  rcases List.mem_pair.1 mem with rfl | rfl
  · trivial
  · exact (TokenAuthenticator.only_uses_accessTokens _ _ _).mono fun _ =>
      Call.keepsNames_of_usesAtMost

/-- The filters create and delete nothing. -/
theorem only_keepsNames_screen (app : App Task) {policy : List PolicyRule} {request : Request}
    (h : ∀ credentials, (app.authenticator credentials).Only (·.keepsNames = true))
    (decides : app.authorizer = .union [.tokenReviewer, .rules policy])
    {route : Route} (matched : Route.ofPath request.path = some route)
    (guarded : route.isProtected = true) :
    (app.screen request).Only (·.keepsNames = true) :=
  only_screen app (fun _ _ => rfl) h decides matched guarded

/-- **A protected route is reached if and only if the caller is known and permitted.** Whatever is
configured and stored, the filters end, unless authentication is abandoned; they let through the
user that the bearer token stands for, if the route permits that one the method, and then the answer
is what is dispatched in the world `w₁` that they leave. Anyone else is answered 401 or 403, and
that is all. No object is created or deleted meanwhile, and what the authorizer reads from the path
is what the router matched. -/
theorem answer_of_isProtected (s : Settings) (tokens : List StaticToken)
    (policy : List PolicyRule) (review : Option (TokenAuthenticator Task))
    (plugins : List (Admission.Plugin Task)) {request : Request} {route : Route}
    {verdict : Verdict} {w w' : World} (matched : Route.ofPath request.path = some route)
    (guarded : route.isProtected = true)
    (authenticated : (callerAuthenticator s tokens { headers := request.headers } :
      Task Verdict).run w = (some verdict, w')) :
    let app := ofParts s tokens policy review plugins
    ∃ outcome w₁, (app.screen request).run w = (some outcome, w₁) ∧ w.SameNames w₁ ∧
      (∀ user, outcome = .ok user ↔
        Verdict.user? verdict = some user ∧ route.Permits policy request.method user) ∧
      (∀ user, outcome = .ok user → (app.answer request).run w =
        (finish route request.method <$> app.dispatch route user request).run w₁) ∧
      (∀ refusal, outcome = .error refusal →
        ∃ response, (app.answer request).run w = (some response, w₁) ∧
          response.status = if Verdict.user? verdict = none then 401 else 403) ∧
      ∀ user, let a := Attributes.resolve request.method request.path (some user)
        a.isResource = true ∧ a.apiGroup = route.apiGroup ∧ a.resource = route.resource ∧
          a.name = route.name ∧ a.verb = route.verb request.method := by
  intro app
  obtain ⟨outcome, w₁, ran, passed, refused⟩ :=
    run_screen app rfl rfl matched guarded authenticated
  have names := Task.sameNames_run
    (only_keepsNames_screen app (only_keepsNames_callerAuthenticator s tokens) rfl matched
      guarded) w
  rw [ran] at names
  have answered := answer_eq app matched guarded
  refine ⟨outcome, w₁, ran, names, passed, ?_, ?_, fun user => ?_⟩
  · rintro user rfl
    rw [answered, Task.run_bind_of_some ran]
  · rintro refusal rfl
    rw [answered, Task.run_bind_of_some ran]
    exact ⟨_, rfl, refused refusal rfl⟩
  · obtain ⟨isResource, -, -, apiGroup, resource, -, name, verb⟩ :=
      Attributes.resolve_of_ofPath request.method (some user) matched guarded
    exact ⟨isResource, apiGroup, resource, name, verb⟩

/-- The hypotheses of `answer_of_isProtected` are satisfiable: a configured token stands for a user
who may get users by a rule. -/
theorem answer_of_isProtected_reader :
    let request : Request := {
      method := "GET"
      path := "/apis/user.openshift.io/v1/users/alice"
      headers := [⟨"authorization", Http.textBytes "Bearer secret"⟩]
      body := .empty }
    let tokens : List StaticToken := [{ token := "secret", user := "dev" }]
    let policy : List PolicyRule :=
      [{ users := ["dev"], verbs := ["get"], apiGroups := ["*"], resources := ["users"] }]
    ∃ w₁, ((ofParts {} tokens policy none [] : App Task).screen request).run
      (World.ofSettings {} .epoch) = (some (.ok (.named "dev")), w₁) := by
  intro request tokens policy
  have matched : Route.ofPath request.path = some (.user "alice") := by decide
  have bearer : (Http.Header.first? request.headers Bearer.fieldName).bind
      (Bearer.token? ·.value) = some "secret".toList := by decide +kernel
  have authenticated : (callerAuthenticator {} tokens { headers := request.headers } :
      Task Verdict).run (World.ofSettings {} .epoch) =
      (some (.ok (some { user := .named "dev" })), World.ofSettings {} .epoch) := by
    unfold callerAuthenticator RequestAuthenticator.bearer
    rw [bearer]
    rfl
  have permits : (Route.user "alice").Permits policy request.method (.named "dev") :=
    .inr ⟨_, List.mem_singleton_self _, .inl (.inr (by decide)),
      .inr (by decide), .inl (by decide), .inr (by decide)⟩
  obtain ⟨outcome, w₁, ran, -, passed, -⟩ :=
    answer_of_isProtected {} tokens policy none [] matched rfl authenticated
  rw [(passed _).2 ⟨rfl, permits⟩] at ran
  exact ⟨w₁, ran⟩

end App

end TokenAuthority
