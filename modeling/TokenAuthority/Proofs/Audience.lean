/-
# The audiences of accepted tokens

The authenticators of configured and of stored tokens know nothing of audiences, and accept a token
for none. Whatever is made of them, no token is accepted for an audience that was not asked for:

| authenticator | accepts for |
| --- | --- |
| `static`, `accessTokens` | none |
| `audienceAgnostic`, if audiences are asked for | those of its own that are asked for |
| `audienceAgnostic`, otherwise | what its delegate accepts for if none are asked for |
| `union` | what the member accepts for that accepts |

So in any tree of them the audiences of an accepted token are none, or are those that are asked for
out of the list of one node (`TokenAuthenticator.Tree.unescalated`).

A review wants audiences, its own or those of the server, and checks those of an accepted token once
more. If the server reviews tokens by its own stored tokens, that check never fails
(`App.review_audiences`).
-/

import TokenAuthority.Proofs.Requests
import TokenAuthority.Proofs.Reviewing

namespace TokenAuthority

open Resource (AccessToken TokenReview)

/-- What a verdict accepts, if it does, is as wanted. -/
def Verdict.OnlyAccepts (p : Accepted → Prop) (verdict : Verdict) : Prop :=
  ∀ accepted, verdict = .ok (some accepted) → p accepted

/-- What is accepted under a condition is accepted under a weaker one. -/
theorem Verdict.OnlyAccepts.mono {p q : Accepted → Prop} {verdict : Verdict}
    (h : verdict.OnlyAccepts p) (weaker : ∀ accepted, p accepted → q accepted) :
    verdict.OnlyAccepts q :=
  fun accepted said => weaker accepted (h accepted said)

namespace Audiences

variable {own other : Audiences}

/-- An audience is shared if both have it. -/
theorem mem_shared {audience : String} :
    audience ∈ own.shared other ↔ audience ∈ own ∧ audience ∈ other := by
  simp [shared]

/-- Nothing is shared with an empty list. -/
theorem shared_nil (own : Audiences) : own.shared [] = [] := by
  simp [shared]

/-- Nothing is shared exactly if no audience is on both sides. -/
theorem shared_eq_nil_iff : own.shared other = [] ↔ ∀ audience ∈ own, audience ∉ other := by
  simp [shared]

end Audiences

namespace TokenAuthenticator

variable {heard : List Exchange} {p : Accepted → Prop}

/-- Configured tokens are accepted for no audience in particular. -/
theorem yields_static (tokens : List StaticToken) (token : String) (audiences : Option Audiences) :
    (static tokens token audiences : Task Verdict).Yields
      (fun _ => Verdict.OnlyAccepts (·.audiences = [])) heard := by
  rintro accepted said
  obtain ⟨entry, -, rfl⟩ := Option.map_eq_some_iff.1 (Except.ok.inj said)
  rfl

/-- The check of a user accepts for no audience in particular. -/
theorem yields_checkUser (stored : AccessToken) (timeout : Option UInt64) :
    (checkUser stored timeout : Task Verdict).Yields
      (fun _ => Verdict.OnlyAccepts (·.audiences = [])) heard := by
  rintro (_ | user)
  · rintro accepted ⟨⟩
  · dsimp only [Task.done_bind]
    split
    · rintro answer accepted ⟨⟩
    · cases timeout with
      | none =>
        rintro accepted ⟨⟩
        rfl
      | some seconds =>
        rintro now (e | written)
        · rintro accepted ⟨⟩
        · rintro accepted ⟨⟩
          rfl

/-- Stored tokens are accepted for no audience in particular. -/
theorem yields_accessTokens (timeout : Option UInt64) (token : String)
    (audiences : Option Audiences) :
    (accessTokens timeout token audiences : Task Verdict).Yields
      (fun _ => Verdict.OnlyAccepts (·.audiences = [])) heard := by
  rw [accessTokens_eq]
  rintro (_ | stored)
  · rintro accepted ⟨⟩
  · intro now
    dsimp only
    rcases stored.inForce? now with _ | _ | ⟨⟩
    · trivial
    · rintro accepted ⟨⟩
    · exact yields_checkUser stored timeout

/-- Whatever its delegate accepts for is passed on only if no audiences are asked for. -/
theorem yields_audienceAgnostic {delegate : TokenAuthenticator Task} {token : String}
    (h : ∀ heard, (delegate token none).Yields (fun _ => Verdict.OnlyAccepts p) heard)
    (own : Audiences) (audiences : Option Audiences) :
    (audienceAgnostic own delegate token audiences).Yields
      (fun _ => Verdict.OnlyAccepts fun accepted => (audiences.getD [] = [] ∧ p accepted) ∨
        (accepted.audiences ≠ [] ∧ accepted.audiences = own.shared (audiences.getD []))) heard := by
  unfold audienceAgnostic
  dsimp only
  split
  · rename_i unasked
    exact (h heard).mono fun _ _ accepts =>
      accepts.mono fun _ accepted => .inl ⟨List.isEmpty_iff.1 unasked, accepted⟩
  · split
    · rintro accepted ⟨⟩
    · rename_i shares
      refine (Task.yields_true _).bind fun _ verdict _ accepted said => ?_
      rcases verdict with e | _ | delegated <;> cases said
      exact .inr ⟨fun empty => shares (List.isEmpty_iff.2 empty), rfl⟩

/-- What all members accept under a condition, their union does. -/
theorem yields_firstAccepted {token : String} {audiences : Option Audiences}
    {members : List (TokenAuthenticator Task)}
    (h : ∀ a ∈ members, ∀ heard, (a token audiences).Yields (fun _ => Verdict.OnlyAccepts p) heard)
    (errors : List AuthenticationError) :
    (firstAccepted token audiences members errors).Yields (fun _ => Verdict.OnlyAccepts p)
      heard := by
  induction members generalizing errors heard with
  | nil =>
    unfold firstAccepted
    split
    · rintro accepted ⟨⟩
    · rintro accepted ⟨⟩
  | cons member rest ih =>
    refine (h member List.mem_cons_self heard).bind fun heard verdict accepts => ?_
    have others (errors : List AuthenticationError) :
        (firstAccepted token audiences rest errors).Yields (fun _ => Verdict.OnlyAccepts p) heard :=
      ih (fun a ha => h a (List.mem_cons_of_mem _ ha)) errors
    rcases verdict with e | _ | accepted
    · exact others _
    · exact others _
    · exact accepts

/-- A tree of authenticators that a server has by itself. -/
inductive Tree where
  | static (tokens : List StaticToken)
  | accessTokens (timeout : Option UInt64)
  | audienceAgnostic (own : Audiences) (delegate : Tree)
  | union (members : List Tree)

namespace Tree

mutual

/-- The authenticator that a tree stands for. -/
def authenticator : Tree → TokenAuthenticator Task
  | static tokens => .static tokens
  | accessTokens timeout => .accessTokens timeout
  | audienceAgnostic own delegate => .audienceAgnostic own (authenticator delegate)
  | union members => .union (authenticators members)

/-- The authenticators that some trees stand for. -/
def authenticators : List Tree → List (TokenAuthenticator Task)
  | [] => []
  | tree :: rest => authenticator tree :: authenticators rest

end

mutual

/-- The lists of audiences that the nodes of a tree have. -/
def lists : Tree → List Audiences
  | static _ => []
  | accessTokens _ => []
  | audienceAgnostic own delegate => own :: lists delegate
  | union members => listsOfAll members

/-- The lists of audiences that the nodes of some trees have. -/
def listsOfAll : List Tree → List Audiences
  | [] => []
  | tree :: rest => lists tree ++ listsOfAll rest

end

/-- A token is accepted for no audiences, or for those of one list that are asked for. -/
def Confines (lists : List Audiences) (asked : Audiences) (accepted : Accepted) : Prop :=
  accepted.audiences = [] ∨
    accepted.audiences ≠ [] ∧ ∃ own ∈ lists, accepted.audiences = own.shared asked

/-- What some lists confine, more lists confine. -/
theorem Confines.mono {lists lists' : List Audiences} {asked : Audiences} {accepted : Accepted}
    (h : Confines lists asked accepted) (more : lists ⊆ lists') :
    Confines lists' asked accepted :=
  h.imp id (.imp id fun ⟨own, mem, eq⟩ => ⟨own, more mem, eq⟩)

mutual

/-- A tree of authenticators confines the audiences for which it accepts. -/
theorem yields_authenticator (tree : Tree) (token : String) (audiences : Option Audiences)
    (heard : List Exchange) :
    (tree.authenticator token audiences).Yields
      (fun _ => Verdict.OnlyAccepts (Confines tree.lists (audiences.getD []))) heard := by
  match tree with
  | static tokens =>
    exact (yields_static tokens token audiences).mono fun _ _ accepts =>
      accepts.mono fun _ => .inl
  | accessTokens timeout =>
    exact (yields_accessTokens timeout token audiences).mono fun _ _ accepts =>
      accepts.mono fun _ => .inl
  | audienceAgnostic own delegate =>
    -- the delegate is asked for none, whatever the node is asked for
    refine (yields_audienceAgnostic (yields_authenticator delegate token none) own
      audiences).mono fun _ _ accepts => accepts.mono fun accepted source => ?_
    obtain ⟨unasked, confined⟩ | ⟨nonempty, shared⟩ := source
    · rw [unasked]
      exact confined.mono (List.subset_cons_self _ _)
    · exact .inr ⟨nonempty, own, List.mem_cons_self, shared⟩
  | union members =>
    exact yields_firstAccepted (yields_authenticators members token audiences) []

/-- Each of some trees confines the audiences for which it accepts by the lists of all. -/
theorem yields_authenticators (trees : List Tree) (token : String) (audiences : Option Audiences) :
    ∀ a ∈ authenticators trees, ∀ heard, (a token audiences).Yields
      (fun _ => Verdict.OnlyAccepts (Confines (listsOfAll trees) (audiences.getD []))) heard := by
  match trees with
  | [] => exact fun a mem => absurd mem List.not_mem_nil
  | tree :: rest =>
    intro a mem heard
    obtain rfl | mem := List.mem_cons.1 mem
    · exact (yields_authenticator tree token audiences heard).mono fun _ _ accepts =>
        accepts.mono fun _ confined => confined.mono (List.subset_append_left _ _)
    · exact (yields_authenticators rest token audiences a mem heard).mono fun _ _ accepts =>
        accepts.mono fun _ confined => confined.mono (List.subset_append_right _ _)

end

end Tree

end TokenAuthenticator

/-- A reader of header fields accepts what the authenticator behind it does. -/
theorem RequestAuthenticator.yields_bearer {p : Accepted → Prop} {heard : List Exchange}
    {delegate : TokenAuthenticator Task} {credentials : Credentials}
    (h : ∀ token heard, (delegate token credentials.audiences).Yields
      (fun _ => Verdict.OnlyAccepts p) heard) :
    (bearer delegate credentials).Yields (fun _ => Verdict.OnlyAccepts p) heard := by
  unfold bearer
  split
  · rintro accepted ⟨⟩
  · rintro accepted ⟨⟩
  · exact h _ heard

/-! ### Reviews -/

namespace Reviewer

variable {r : Reviewer Task} {review review' : TokenReview} {verdict : Verdict}
  {p : Accepted → Prop} {heard : List Exchange}

/-- A review is concluded as its verdict tells. -/
theorem yields_conclude (r : Reviewer Task) (review : TokenReview) (verdict : Verdict) :
    (r.conclude review verdict).Yields (fun _ outcome => outcome = r.conclusion review verdict)
      heard := by
  obtain silent | ⟨severity, text, noted⟩ := r.conclude_cases review verdict
  · rw [silent]
    rfl
  · rw [noted]
    exact fun _ => rfl

/-- What is accepted with an audience that is wanted passes the check of the audiences. -/
theorem conclusion_accepted {accepted : Accepted}
    (shares : r.wanted review ≠ [] → ∃ audience ∈ r.wanted review, audience ∈ accepted.audiences) :
    r.conclusion review (.ok (some accepted)) = .ok (accept review accepted) := by
  refine if_neg fun ⟨wants, disjoint⟩ => ?_
  obtain ⟨audience, wanted, mem⟩ := shares wants
  exact Audiences.shared_eq_nil_iff.1 disjoint audience wanted mem

/-- A review that was not sent as authenticated is so only by an acceptance, with an audience that
is wanted if any are. -/
theorem exists_accepted_of_conclusion (blank : review.status.authenticated = false)
    (concluded : r.conclusion review verdict = .ok review')
    (authenticated : review'.status.authenticated = true) :
    ∃ accepted, verdict = .ok (some accepted) ∧ review' = accept review accepted ∧
      (r.wanted review ≠ [] → ∃ audience ∈ r.wanted review, audience ∈ accepted.audiences) := by
  rcases verdict with e | _ | accepted
  · obtain rfl := Except.ok.inj concluded
    exact absurd (blank.symm.trans authenticated) Bool.false_ne_true
  · obtain rfl := Except.ok.inj concluded
    exact absurd (blank.symm.trans authenticated) Bool.false_ne_true
  · unfold conclusion at concluded
    dsimp only at concluded
    split at concluded
    · cases concluded
    · rename_i passes
      refine ⟨accepted, rfl, (Except.ok.inj concluded).symm, fun wants => ?_⟩
      by_contra disjoint
      refine passes ⟨wants, Audiences.shared_eq_nil_iff.2 fun audience wanted mem => ?_⟩
      exact disjoint ⟨audience, wanted, mem⟩

/-- The audiences that are asked for are those that the review wants. -/
theorem audiences_of_credentials? {token : String} {wanted : Audiences} {credentials : Credentials}
    (legal : credentials? token wanted = some credentials) :
    credentials.audiences.getD [] = wanted := by
  obtain ⟨header, -, rfl⟩ := Option.map_eq_some_iff.1 legal
  cases wanted <;> rfl

/-- The verdict of a review accepts under the condition of its authenticator. -/
theorem yields_verdict (h : ∀ authenticate, r.authenticator = some authenticate → ∀ credentials,
      credentials? review.spec.token (r.wanted review) = some credentials →
        ∀ heard, (authenticate credentials).Yields
          (fun _ answer => answer.verdict.OnlyAccepts p) heard) :
    (r.verdict review).Yields (fun _ => Verdict.OnlyAccepts p) heard := by
  unfold verdict
  split
  · rintro accepted ⟨⟩
  · rename_i authenticate configured
    split
    · rintro accepted ⟨⟩
    · rename_i credentials legal
      refine (h authenticate configured credentials legal heard).bind fun _ answer accepts => ?_
      intro accepted said
      unfold inTime at said
      split at said
      · exact accepts accepted said
      · cases said

/-- A review says what some verdict makes of it, and this accepts nothing but what the authenticator
does. -/
theorem yields_authenticate (h : ∀ authenticate, r.authenticator = some authenticate →
      ∀ credentials, credentials? review.spec.token (r.wanted review) = some credentials →
        ∀ heard, (authenticate credentials).Yields
          (fun _ answer => answer.verdict.OnlyAccepts p) heard) :
    (r.authenticate review).Yields (fun _ outcome =>
      ∃ verdict : Verdict, verdict.OnlyAccepts p ∧ outcome = r.conclusion review verdict) heard :=
  (yields_verdict h).bind fun _ verdict accepts =>
    (r.yields_conclude review verdict).mono fun _ _ concluded => ⟨verdict, accepts, concluded⟩

/-- So does a review that is validated before. -/
theorem yields_create (h : ∀ authenticate, r.authenticator = some authenticate →
      ∀ credentials, credentials? review.spec.token (r.wanted review) = some credentials →
        ∀ heard, (authenticate credentials).Yields
          (fun _ answer => answer.verdict.OnlyAccepts p) heard)
    (ns : Option String) (validate : Option (TokenReview → Task (Except Failure Unit))) :
    (r.create ns review validate).Yields (fun _ outcome => ∀ review', outcome = .ok review' →
      ∃ verdict : Verdict, verdict.OnlyAccepts p ∧ r.conclusion review verdict = .ok review')
      heard := by
  have authenticate {heard : List Exchange} : (r.authenticate review).Yields (fun _ outcome =>
      ∀ review', outcome = .ok review' →
        ∃ verdict : Verdict, verdict.OnlyAccepts p ∧ r.conclusion review verdict = .ok review')
      heard := by
    refine (yields_authenticate h).mono ?_
    rintro _ outcome ⟨verdict, accepts, rfl⟩ review' concluded
    exact ⟨verdict, accepts, concluded⟩
  unfold create
  split
  · rintro review' ⟨⟩
  · dsimp only [Task.pure_eq, Task.bind_eq, Task.done_bind]
    split
    · rintro review' ⟨⟩
    · cases validate with
      | none => exact authenticate
      | some validate =>
        refine (Task.yields_true (validate review)).bind fun heard valid _ => ?_
        cases valid with
        | error failure => rintro review' ⟨⟩
        | ok => exact authenticate

/-- A review that names a token and no namespace is authenticated. -/
theorem create_eq_authenticate {ns : Option String} (cluster : namespace? ns review = none)
    (token : review.spec.token ≠ "") : r.create ns review = r.authenticate review := by
  unfold create
  rw [cluster, if_neg token]

end Reviewer

/-! ### No audience is made up -/

/-- A reviewer asks a tree of authenticators, which takes some time. -/
def Reviewer.Asks (r : Reviewer Task) (tree : TokenAuthenticator.Tree) : Prop :=
  ∃ delay, r.authenticator = some fun credentials =>
    return { verdict := ← RequestAuthenticator.bearer tree.authenticator credentials, delay }

/-- **No tree of authenticators accepts a token for an audience that was not asked for.** Whatever
the stores answer, a token is accepted for no audiences, or for some that all were asked for and
that all are in the list of one node of the tree; if none are asked for, it is accepted for none.

So if a review that was sent with a blank status wants audiences, and asks a tree, then it tells
success only with audiences, and with no others than it wants. -/
theorem TokenAuthenticator.Tree.unescalated (tree : Tree) :
    (∀ token audiences, (tree.authenticator token audiences).Yields (fun _ verdict =>
      ∀ accepted, verdict = .ok (some accepted) →
        (accepted.audiences = [] ∨ accepted.audiences ≠ [] ∧
          (∀ audience ∈ accepted.audiences, audience ∈ audiences.getD []) ∧
          ∃ own ∈ tree.lists, ∀ audience ∈ accepted.audiences, audience ∈ own) ∧
        (audiences.getD [] = [] → accepted.audiences = [])) []) ∧
    ∀ (r : Reviewer Task) (ns : Option String) (review : TokenReview)
      (validate : Option (TokenReview → Task (Except Failure Unit))), r.Asks tree →
      review.status = {} → r.wanted review ≠ [] →
        (r.create ns review validate).Yields (fun _ outcome =>
          ∀ review', outcome = .ok review' → review'.status.authenticated = true →
            review'.status.audiences ≠ [] ∧
              ∀ audience ∈ review'.status.audiences, audience ∈ r.wanted review) [] := by
  constructor
  · intro token audiences
    refine (tree.yields_authenticator token audiences []).mono fun _ verdict accepts => ?_
    intro accepted said
    obtain empty | ⟨nonempty, own, mem, shared⟩ := accepts accepted said
    · exact ⟨.inl empty, fun _ => empty⟩
    · have both (audience : String) (told : audience ∈ accepted.audiences) :
          audience ∈ own ∧ audience ∈ audiences.getD [] := by
        rwa [shared, Audiences.mem_shared] at told
      refine ⟨.inr ⟨nonempty, fun audience told => (both audience told).2, own, mem,
        fun audience told => (both audience told).1⟩, fun unasked => ?_⟩
      rw [shared, unasked, Audiences.shared_nil]
  · rintro r ns review validate ⟨delay, asks⟩ blank wants
    have confines (authenticate : Credentials → Task Timed)
        (configured : r.authenticator = some authenticate) (credentials : Credentials)
        (legal : Reviewer.credentials? review.spec.token (r.wanted review) = some credentials)
        (heard : List Exchange) : (authenticate credentials).Yields (fun _ answer =>
          answer.verdict.OnlyAccepts (Confines tree.lists (r.wanted review))) heard := by
      obtain rfl := Option.some.inj (asks.symm.trans configured)
      rw [← Reviewer.audiences_of_credentials? legal]
      exact (RequestAuthenticator.yields_bearer fun token heard =>
        tree.yields_authenticator token credentials.audiences heard).bind
          fun _ verdict accepts => accepts
    refine (Reviewer.yields_create confines ns validate).mono ?_
    intro _ outcome concludes review' isOk authenticated
    obtain ⟨verdict, accepts, concluded⟩ := concludes review' isOk
    obtain ⟨accepted, rfl, rfl, shares⟩ := Reviewer.exists_accepted_of_conclusion (by rw [blank])
      concluded authenticated
    obtain ⟨audience, wanted, told⟩ := shares wants
    obtain empty | ⟨nonempty, own, -, shared⟩ := accepts accepted rfl
    · rw [empty] at told
      cases told
    · refine ⟨nonempty, fun audience told => ?_⟩
      change audience ∈ accepted.audiences at told
      rw [shared] at told
      exact (Audiences.mem_shared.1 told).2

/-- The hypotheses of `unescalated` are satisfiable: a stored token of `alice` is reviewed for two
audiences, of which the server has one. -/
theorem TokenAuthenticator.Tree.unescalated_api :
    let tree : Tree :=
      .union [.static [.admin], .audienceAgnostic ["api", "web"] (.accessTokens none)]
    let r : Reviewer Task := { authenticator := some fun credentials =>
      return { verdict := ← RequestAuthenticator.bearer tree.authenticator credentials } }
    let review := (TokenReview.forToken "tok").withAudiences ["other", "api"]
    ∃ review' w', (r.create none review).run .aliceHolds = (some (.ok review'), w') ∧
      review'.status.authenticated = true ∧ review'.status.audiences ≠ [] ∧
      ∀ audience ∈ review'.status.audiences, audience ∈ ["other", "api"] := by
  intro tree r review
  have reviewed : ((r.create none review).run .aliceHolds).1.map
      (·.toOption.map (·.status.authenticated)) = some (some true) := by decide +kernel
  obtain ⟨outcome, ran, succeeds⟩ := Option.map_eq_some_iff.1 reviewed
  obtain ⟨review', isOk, authenticated⟩ := Option.map_eq_some_iff.1 succeeds
  obtain rfl : outcome = .ok review' := by
    cases outcome <;> cases isOk
    rfl
  obtain ⟨-, confined⟩ := tree.unescalated
  obtain ⟨later, told⟩ := (confined r none review none ⟨0, rfl⟩ rfl (by decide)).of_run
    (Prod.ext ran rfl)
  exact ⟨review', _, Prod.ext ran rfl, authenticated, told review' rfl authenticated⟩

/-! ### The audiences of a server -/

namespace Reviewer

variable {r : Reviewer Task} {review : TokenReview}

/-- To conclude a review is to write into the journal, and nothing else. -/
theorem only_conclude (r : Reviewer Task) (review : TokenReview) (verdict : Verdict) :
    (r.conclude review verdict).Only fun call => ∃ entry, call = .record entry := by
  obtain silent | ⟨severity, text, noted⟩ := r.conclude_cases review verdict
  · rw [silent]
    trivial
  · rw [noted]
    exact ⟨⟨_, rfl⟩, fun _ => trivial⟩

/-- A reviewer that asks nobody who makes calls only writes into the journal. -/
theorem only_authenticate (h : ∀ authenticate, r.authenticator = some authenticate →
      ∀ credentials, credentials? review.spec.token (r.wanted review) = some credentials →
        ∃ answer, authenticate credentials = .done answer) :
    (r.authenticate review).Only fun call => ∃ entry, call = .record entry := by
  refine Task.Only.bind ?_ (r.only_conclude review)
  unfold verdict
  split
  · trivial
  · rename_i authenticate configured
    split
    · trivial
    · rename_i credentials legal
      obtain ⟨answer, said⟩ := h authenticate configured credentials legal
      rw [said]
      trivial

end Reviewer

/-- Without a shared audience, nobody is asked. -/
theorem TokenAuthenticator.exists_bearer_audienceAgnostic_eq_done
    (delegate : TokenAuthenticator Task) (own : Audiences) {credentials : Credentials}
    (asks : credentials.audiences.getD [] ≠ [])
    (disjoint : own.shared (credentials.audiences.getD []) = []) :
    ∃ verdict, RequestAuthenticator.bearer (audienceAgnostic own delegate) credentials =
      .done verdict := by
  unfold RequestAuthenticator.bearer
  split
  · exact ⟨_, rfl⟩
  · exact ⟨_, rfl⟩
  · unfold audienceAgnostic
    dsimp only
    rw [if_neg (by simpa using asks), if_pos (by simpa using disjoint)]
    exact ⟨_, rfl⟩

/-- **A server that reviews tokens by its own stored tokens checks audiences exactly.** It is sent a
review with a token, no namespace and a blank status, which wants the audiences that it names, or
else those of the server. Whatever is stored, the check of the audiences does not fail; and if the
review tells success, then with exactly those of the server's audiences that are wanted, in the
server's order, and these are none only if none are wanted. If some are wanted and the server has
none of them, then nothing is looked up or written but the journal, and no success is told. -/
theorem App.review_audiences {s : Settings} {tokens : List StaticToken} {policy : List PolicyRule}
    {post : Webhook.Transport Task} {configuration : String → ExceptT String Task (Option String)}
    {app : App Task} {w w' : World}
    (assembled : (assemble s tokens policy post configuration).run w = (some (.ok app), w'))
    (backend : s.tokenReview.backend = .accessTokens) {ns : Option String} {review : TokenReview}
    (cluster : Reviewer.namespace? ns review = none) (token : review.spec.token ≠ "")
    (blank : review.status = {}) :
    let own : Audiences := s.tokenReview.audienceList
    let wanted := if review.spec.audiences.isEmpty then own else review.spec.audiences
    (app.reviewer.create ns review).Yields (fun _ outcome => ∃ review', outcome = .ok review' ∧
      (review'.status.authenticated = true → review'.status.audiences = own.filter (· ∈ wanted) ∧
        (review'.status.audiences = [] → wanted = []))) [] ∧
    (wanted ≠ [] → (∀ audience ∈ wanted, audience ∉ own) →
      (app.reviewer.create ns review).Only (fun call => ∃ entry, call = .record entry) ∧
      (app.reviewer.create ns review).Yields (fun _ outcome => ∀ review', outcome = .ok review' →
        review'.status.authenticated = false) []) := by
  intro own wanted
  obtain ⟨-, reviewer⟩ := parts_of_assemble_accessTokens assembled backend
  rw [reviewer, Reviewer.create_eq_authenticate cluster token]
  let r : Reviewer Task := reviewerWith s (some (.audienceAgnostic own (storedTokens s)))
  have exactly (authenticate : Credentials → Task Timed)
      (configured : r.authenticator = some authenticate) (credentials : Credentials)
      (legal : Reviewer.credentials? review.spec.token wanted = some credentials)
      (heard : List Exchange) : (authenticate credentials).Yields (fun _ answer =>
        answer.verdict.OnlyAccepts fun accepted => accepted.audiences = own.shared wanted ∧
          (wanted ≠ [] → accepted.audiences ≠ [])) heard := by
    obtain rfl := Option.some.inj configured
    rw [← Reviewer.audiences_of_credentials? legal]
    refine (RequestAuthenticator.yields_bearer fun token heard =>
      TokenAuthenticator.yields_audienceAgnostic (fun heard =>
        TokenAuthenticator.yields_accessTokens _ token none) own credentials.audiences).bind
      fun _ verdict accepts => accepts.mono fun accepted source => ?_
    obtain ⟨unasked, empty⟩ | ⟨nonempty, shared⟩ := source
    · rw [unasked, Audiences.shared_nil]
      exact ⟨empty, fun asked => absurd rfl asked⟩
    · exact ⟨shared, fun _ => nonempty⟩
  have checked : (r.authenticate review).Yields (fun _ outcome => ∃ review', outcome = .ok review' ∧
      (review'.status.authenticated = true → review'.status.audiences = own.filter (· ∈ wanted) ∧
        (review'.status.audiences = [] → wanted = []))) [] := by
    refine (Reviewer.yields_authenticate exactly).mono ?_
    rintro _ outcome ⟨verdict, accepts, rfl⟩
    -- the check finds an audience again that the authenticator has found
    obtain ⟨review', concluded⟩ : ∃ review', r.conclusion review verdict = .ok review' := by
      rcases verdict with e | _ | accepted
      · exact ⟨_, rfl⟩
      · exact ⟨_, rfl⟩
      · obtain ⟨shared, nonempty⟩ := accepts accepted rfl
        refine ⟨_, Reviewer.conclusion_accepted fun wants => ?_⟩
        obtain ⟨audience, mem⟩ := List.exists_mem_of_ne_nil _ (nonempty wants)
        exact ⟨audience, (Audiences.mem_shared.1 (shared ▸ mem)).2, mem⟩
    refine ⟨review', concluded, fun authenticated => ?_⟩
    obtain ⟨accepted, rfl, rfl, -⟩ := Reviewer.exists_accepted_of_conclusion (by rw [blank])
      concluded authenticated
    obtain ⟨shared, nonempty⟩ := accepts accepted rfl
    refine ⟨shared.trans (List.filter_congr fun audience _ => by simp), fun empty => ?_⟩
    by_contra wants
    exact nonempty wants empty
  refine ⟨checked, fun wants disjoint => ⟨Reviewer.only_authenticate ?_, checked.mono ?_⟩⟩
  · intro authenticate configured credentials legal
    obtain rfl := Option.some.inj configured
    have asked : credentials.audiences.getD [] = wanted := Reviewer.audiences_of_credentials? legal
    obtain ⟨verdict, said⟩ := TokenAuthenticator.exists_bearer_audienceAgnostic_eq_done
      (storedTokens s) own (asked ▸ wants) (asked ▸ Audiences.shared_eq_nil_iff.2
        fun audience mem wanted => disjoint audience wanted mem)
    refine ⟨{ verdict }, ?_⟩
    dsimp only
    rw [said]
    rfl
  · rintro _ outcome ⟨_, rfl, exactly⟩ review' ⟨⟩
    refine Bool.eq_false_iff.2 fun authenticated => ?_
    obtain ⟨shared, nonempty⟩ := exactly authenticated
    refine wants (nonempty (shared.trans (List.filter_eq_nil_iff.2 fun audience mem => ?_)))
    simpa using fun wanted => disjoint audience wanted mem

/-- The hypotheses of `review_audiences` are satisfiable: a stored token of `alice` is reviewed for
one of two audiences. -/
theorem App.review_audiences_web :
    let s : Settings := { tokenReview := { audiences := "api,web" } }
    let review := (TokenReview.forToken "tok").withAudiences ["web"]
    ∃ review' w', ((selfContained s [] []).reviewer.create none review).run .aliceHolds =
      (some (.ok review'), w') ∧ review'.status.audiences = ["web"] := by
  intro s review
  have reviewed : (((selfContained s [] []).reviewer.create none review).run .aliceHolds).1.map
      (·.toOption.map (·.status.authenticated)) = some (some true) := by decide +kernel
  obtain ⟨outcome, ran, succeeds⟩ := Option.map_eq_some_iff.1 reviewed
  obtain ⟨w', assembled⟩ := run_assemble_selfContained (s := s) rfl (by decide +kernel) [] []
    (fun _ _ _ => .done none) .aliceHolds
  have cluster : Reviewer.namespace? none review = none := rfl
  obtain ⟨exactly, -⟩ := App.review_audiences assembled rfl cluster (by decide) rfl
  obtain ⟨later, review', rfl, told⟩ := exactly.of_run (Prod.ext ran rfl)
  obtain ⟨audiences, -⟩ := told (Option.some.inj succeeds)
  exact ⟨review', _, Prod.ext ran rfl, audiences.trans (by decide +kernel)⟩

end TokenAuthority
