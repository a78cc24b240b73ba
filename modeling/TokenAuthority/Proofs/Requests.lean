/-
# The requests of an application

Whatever a request wants, what it does with stored tokens is what `Task.Behaves` allows
(`App.behaves_answer`). Only the authenticator of stored tokens replaces any, and always by a note
of its use with the inactivity timeout of the settings; everything else that a request does with
tokens is to look them up, to put one in and to take one out.

An application is what `App.assemble` sets up. The only foreign code in it reaches the remote
reviewer. It is handed a review and nothing of the stores, so it is taken to make no calls.
-/

import TokenAuthority.Proofs.Conduct
import TokenAuthority.Proofs.Filters
import TokenAuthority.Proofs.Reviewing

namespace TokenAuthority

open Http (Request Response)
open Resource (AccessToken)

namespace Task

variable {α β : Type}

/-- All results of a task, whatever it is answered, are as wanted after what was heard. -/
def Yields (wanted : List Exchange → α → Prop) : List Exchange → Task α → Prop
  | heard, done a => wanted heard a
  | _, abandoned => True
  | heard, call c next => ∀ answer, (next answer).Yields wanted (⟨c, answer⟩ :: heard)

variable {heard later : List Exchange} {wanted : List Exchange → α → Prop}

/-- Every result is one. -/
theorem yields_true (t : Task α) : t.Yields (fun _ _ => True) heard := by
  induction t generalizing heard with
  | done a => trivial
  | abandoned => trivial
  | call c next ih => exact fun answer => ih answer

/-- What is wanted of the results may be weakened. -/
theorem Yields.mono {t : Task α} {p q : List Exchange → α → Prop} (ht : t.Yields p heard)
    (weaker : ∀ heard a, p heard a → q heard a) : t.Yields q heard := by
  induction t generalizing heard with
  | done a => exact weaker heard a ht
  | abandoned => trivial
  | call c next ih => exact fun answer => ih answer (ht answer)

/-- The results of a task in two parts are those of the second part, behind those of the first. -/
theorem Yields.bind {t : Task α} {f : α → Task β} {p : List Exchange → α → Prop}
    {q : List Exchange → β → Prop} (ht : t.Yields p heard)
    (hf : ∀ heard a, p heard a → (f a).Yields q heard) : (t.bind f).Yields q heard := by
  induction t generalizing heard with
  | done a => exact hf heard a ht
  | abandoned => trivial
  | call c next ih => exact fun answer => ih answer (ht answer)

/-- What is left of a task has the results of the task. -/
theorem Yields.after {t left : Task α} (ht : t.Yields wanted heard) (after : t.After later left) :
    left.Yields wanted (later.reverse ++ heard) := by
  induction after generalizing heard with
  | nothing p => exact ht
  | heard after ih =>
    rw [List.reverse_cons, List.append_assoc]
    exact ih (ht _)

/-- The result of a run is one of the results of the task. -/
theorem Yields.of_run {t : Task α} (ht : t.Yields wanted heard) {w w' : World} {a : α}
    (h : t.run w = (some a, w')) : ∃ later, wanted later a := by
  induction t generalizing heard w with
  | done b =>
    obtain rfl : b = a := Option.some.inj (congrArg Prod.fst h)
    exact ⟨heard, ht⟩
  | abandoned => cases congrArg Prod.fst h
  | call c next ih => exact ih _ (ht _) h

variable {timeout : Option UInt64}

/-- Writing a message touches no token. -/
theorem behaves_record (entry : Entry) :
    (Backend.record entry : Task Unit).Behaves timeout [] :=
  behaves_call fun _ => trivial

end Task

open TokenAuthority.Task (behaves_call behaves_record)

/-! ### Reviews and admission -/

/-- The webhook only asks, if its transport answers without a call. -/
theorem TokenAuthenticator.isQuiet_webhook {post : Webhook.Transport Task}
    (inert : ∀ url seconds review, ∃ reply, post url seconds review = .done reply) (url : Url)
    (seconds : Nat) (token : String) (audiences : Option Audiences) :
    (webhook post url seconds token audiences).IsQuiet := by
  unfold webhook
  split
  · trivial
  · obtain ⟨reply, posted⟩ := inert url seconds (Webhook.request token audiences)
    rw [posted]
    cases reply <;> trivial

/-- Concluding a review only writes messages. -/
theorem Reviewer.isQuiet_conclude (r : Reviewer Task) (review : Resource.TokenReview)
    (verdict : Verdict) : (r.conclude review verdict).IsQuiet := by
  obtain silent | ⟨severity, text, noted⟩ := r.conclude_cases review verdict
  · rw [silent]
    trivial
  · rw [noted]
    exact ⟨rfl, fun _ => trivial⟩

/-- A review does with stored tokens what its authenticator does. -/
theorem Reviewer.behaves_create {timeout : Option UInt64} {r : Reviewer Task}
    (h : ∀ authenticate, r.authenticator = some authenticate →
      ∀ credentials, (authenticate credentials).Behaves timeout [])
    (ns : Option String) (review : Resource.TokenReview) :
    (r.create ns review).Behaves timeout [] := by
  have verdict : (r.verdict review).Behaves timeout [] := by
    unfold Reviewer.verdict
    split
    · trivial
    · rename_i authenticate isSome
      split
      · trivial
      · exact (h authenticate isSome _).bind fun _ => trivial
  have authenticate : (r.authenticate review).Behaves timeout [] :=
    verdict.bind fun verdict => (r.isQuiet_conclude review verdict).behaves
  unfold Reviewer.create
  split
  · trivial
  · dsimp only [Task.pure_eq, Task.bind_eq, Task.done_bind]
    split
    · trivial
    · exact authenticate

/-- A review makes the calls of the authenticator, and writes messages. -/
theorem Reviewer.only_create {r : Reviewer Task} {p : Call → Prop}
    (told : ∀ severity text, p (.record (.message severity text)))
    (h : ∀ authenticate, r.authenticator = some authenticate →
      ∀ credentials, (authenticate credentials).Only p)
    (ns : Option String) (review : Resource.TokenReview) : (r.create ns review).Only p := by
  have verdict : (r.verdict review).Only p := by
    unfold Reviewer.verdict
    split
    · trivial
    · rename_i authenticate isSome
      split
      · trivial
      · exact (h authenticate isSome _).bind fun _ => trivial
  have authenticate : (r.authenticate review).Only p := by
    refine verdict.bind fun verdict => ?_
    obtain silent | ⟨severity, text, noted⟩ := r.conclude_cases review verdict
    · rw [silent]
      trivial
    · rw [noted]
      exact ⟨told severity text, fun _ => trivial⟩
  unfold Reviewer.create
  split
  · trivial
  · dsimp only [Task.pure_eq, Task.bind_eq, Task.done_bind]
    split
    · trivial
    · exact authenticate

namespace Admission

variable {timeout : Option UInt64}

/-- Annotating a change only writes messages. -/
theorem Change.isQuiet_annotate (change : Change) (notes : List (String × String)) :
    (change.annotate notes : Task Change).IsQuiet := by
  induction notes generalizing change with
  | nil => trivial
  | cons note rest ih =>
    unfold annotate
    split
    · exact ⟨rfl, fun _ => ih _⟩
    · exact ih _

/-- A chain of plugins does with stored tokens what its plugins do. -/
theorem behaves_validate {plugins : List (Plugin Task)}
    (h : ∀ plugin ∈ plugins, ∀ change, (plugin.validate change).Behaves timeout [])
    (change : Change) : (validate plugins change).Behaves timeout [] := by
  induction plugins generalizing change with
  | nil => trivial
  | cons plugin rest ih =>
    have others := ih fun p hp => h p (List.mem_cons_of_mem _ hp)
    unfold validate
    split
    · refine (h plugin List.mem_cons_self change).bind fun opinion => ?_
      refine (change.isQuiet_annotate opinion.notes).behaves.bind fun change => ?_
      cases opinion.objection with
      | none => exact others change
      | some e => trivial
    · exact others change

/-- A chain of plugins that only ask only asks. -/
theorem isQuiet_validate {plugins : List (Plugin Task)}
    (h : ∀ plugin ∈ plugins, ∀ change, (plugin.validate change).IsQuiet) (change : Change) :
    (validate plugins change).IsQuiet := by
  induction plugins generalizing change with
  | nil => trivial
  | cons plugin rest ih =>
    have others := ih fun p hp => h p (List.mem_cons_of_mem _ hp)
    unfold validate
    split
    · refine (h plugin List.mem_cons_self change).bind fun opinion => ?_
      refine (change.isQuiet_annotate opinion.notes).bind fun change => ?_
      cases opinion.objection with
      | none => exact others change
      | some e => trivial
    · exact others change

/-- The plugin of this library notes whose token it is, and objects to nothing that is one. -/
theorem AuditLogouts.validate_of_owned {change : Change} (resource : change.resource = accessTokens)
    {owner : String} (owned : change.object.bind (·.owner?) = some owner) :
    (validate change : Task Opinion) =
      .call (.record (.message .info ("deletion of oauthaccesstoken for user " ++ owner)))
        fun _ => .done { notes := [(ownerKey, owner)] } := by
  unfold validate
  rw [if_neg (not_not.2 resource), owned]
  rfl

/-- The plugin that notes logouts changes nothing that is stored. -/
theorem AuditLogouts.isQuiet_validate (change : Change) :
    (validate change : Task Opinion).IsQuiet := by
  unfold validate
  split
  · trivial
  · split
    · trivial
    · exact ⟨rfl, fun _ => trivial⟩

end Admission

/-! ### The application -/

/-- A response tells success. -/
def Http.Response.IsSuccess (response : Response) : Prop :=
  200 ≤ response.status ∧ response.status < 300

/-- A failure is no success. -/
theorem Http.Response.not_isSuccess_ofFailure (f : Failure) : ¬(ofFailure f).IsSuccess := by
  change ¬(200 ≤ f.reason.code ∧ f.reason.code < 300)
  cases f.reason <;> decide

/-- Creating an object replaces no token. -/
theorem Backend.behaves_create {timeout : Option UInt64} (c : Collection) (object : c.Object) :
    (Backend.create c object : Task (Except StoreError c.Object)).Behaves timeout [] := by
  unfold Backend.create
  split
  · trivial
  · refine behaves_call fun now => behaves_call fun room => ?_
    cases room with
    | error e => trivial
    | ok => exact behaves_call fun _ => trivial

namespace App

/-- What an application consists of behaves. -/
structure PartsBehave (app : App Task) (timeout : Option UInt64) : Prop where
  authenticator : ∀ credentials, (app.authenticator credentials).Behaves timeout []
  authorizer : ∀ attributes, (app.authorizer attributes).Behaves timeout []
  admission : ∀ plugin ∈ app.admission, ∀ change, (plugin.validate change).Behaves timeout []
  reviewer : ∀ authenticate, app.reviewer.authenticator = some authenticate →
    ∀ credentials, (authenticate credentials).Behaves timeout []

section Endpoints

variable {app : App Task} {timeout : Option UInt64}

/-- A lookup by a client only asks. -/
theorem isQuiet_get (c : Collection) (name : String) : (get c name : Task Response).IsQuiet := by
  refine ⟨rfl, fun found => ?_⟩
  cases found <;> trivial

/-- Decoding a segment touches no token. -/
theorem behaves_decoding {next : String → Task Response}
    (h : ∀ text, (next text).Behaves timeout []) (segment : String) :
    (decoding segment next).Behaves timeout [] := by
  unfold decoding
  split
  · exact h _
  · trivial

/-- The check of readiness only asks. -/
theorem isQuiet_checkReadiness : (checkReadiness : Task Response).IsQuiet := by
  have health : (checkHealth : Task _).IsQuiet := by
    refine ⟨rfl, fun answer => ?_⟩
    cases answer with
    | error e => trivial
    | ok => exact ⟨rfl, fun _ => trivial⟩
  refine health.bind fun answer => ?_
  cases answer with
  | error e => exact ⟨rfl, fun _ => trivial⟩
  | ok => trivial

variable (parts : app.PartsBehave timeout)
include parts

/-- A creation by a client replaces no token. -/
theorem behaves_create (c : Collection) (caller : Identity) (request : Request) :
    (app.create c caller request).Behaves timeout [] := by
  unfold create
  split
  · trivial
  · rename_i object readable
    split
    · trivial
    · refine (Admission.behaves_validate parts.admission _).bind fun ⟨change, verdict⟩ => ?_
      dsimp only
      split
      · trivial
      · refine (Backend.behaves_create c object).bind fun stored => ?_
        cases stored with
        | error e => trivial
        | ok created => exact (behaves_record _).bind fun _ => trivial

/-- A deletion by a client replaces no token. -/
theorem behaves_deleteAccessToken (caller : Identity) (name : String) :
    (app.deleteAccessToken caller name).Behaves timeout [] := by
  refine behaves_call fun found => ?_
  cases found with
  | none => trivial
  | some existing =>
    refine (Admission.behaves_validate parts.admission _).bind fun ⟨change, verdict⟩ => ?_
    dsimp only
    split
    · trivial
    · refine behaves_call fun answer => ?_
      cases answer with
      | error e => trivial
      | ok deleted =>
        exact (behaves_record _).bind fun _ => (behaves_record _).bind fun _ => trivial

/-- A review by a client does with stored tokens what it may. -/
theorem behaves_createTokenReview (ns : Option String) (request : Request) :
    (app.createTokenReview ns request).Behaves timeout [] := by
  unfold createTokenReview
  split
  · trivial
  · refine (Reviewer.behaves_create parts.reviewer ns _).bind fun reviewed => ?_
    cases reviewed <;> trivial

/-- Every handler does with stored tokens what it may. -/
theorem behaves_dispatch (route : Server.Route) (caller : Identity) (request : Request) :
    (app.dispatch route caller request).Behaves timeout [] := by
  unfold dispatch
  split
  · rename_i endpoint _
    cases endpoint with
    | checkHealth => trivial
    | checkReadiness => exact isQuiet_checkReadiness.behaves
    | describe => trivial
    | showReference => trivial
    | createTokenReview ns =>
      cases ns with
      | none => exact behaves_createTokenReview parts none request
      | some ns =>
        exact behaves_decoding (fun ns => behaves_createTokenReview parts (some ns) request) ns
    | createAccessToken => exact behaves_create parts .accessTokens caller request
    | getAccessToken name =>
      exact behaves_decoding (fun name => (isQuiet_get .accessTokens name).behaves) name
    | deleteAccessToken name => exact behaves_decoding (behaves_deleteAccessToken parts caller) name
    | createUser => exact behaves_create parts .users caller request
    | getUser name =>
      exact behaves_decoding (fun name => (isQuiet_get .users name).behaves) name
  · trivial

/-- The filters do with stored tokens what they may. -/
theorem behaves_screen (request : Request) : (app.screen request).Behaves timeout [] := by
  have authenticate : (app.authenticate request).Behaves timeout [] := by
    unfold App.authenticate
    dsimp only
    split
    · exact behaves_call fun _ => trivial
    · refine (parts.authenticator _).bind fun verdict => ?_
      rcases verdict with e | _ | accepted
      · exact (behaves_record _).bind fun _ => trivial
      · trivial
      · trivial
  refine authenticate.bind fun outcome => ?_
  cases outcome with
  | error refusal => trivial
  | ok caller =>
    have authorize : (app.authorize request caller).Behaves timeout [] := by
      refine (parts.authorizer _).bind fun decision => ?_
      rcases decision with e | ⟨_ | _ | _, reason⟩
      · exact (behaves_record _).bind fun _ => trivial
      all_goals trivial
    refine authorize.bind fun outcome => ?_
    cases outcome <;> trivial

/-- The requests of an application behave if its parts do. -/
theorem behaves_answer (request : Request) : (app.answer request).Behaves timeout [] := by
  unfold answer guard
  split
  · trivial
  · refine Task.Behaves.bind ?_ fun _ => trivial
    split
    · refine (behaves_screen parts request).bind fun outcome => ?_
      cases outcome with
      | error refusal => trivial
      | ok caller => exact behaves_dispatch parts _ caller request
    · exact behaves_dispatch parts _ {} request

end Endpoints

/-- **Whoever is not let through is told so.** -/
theorem yields_screen {app : App Task} {heard : List Exchange} (request : Request) :
    (app.screen request).Yields (fun _ outcome =>
      ∀ refusal, outcome = .error refusal → ¬refusal.IsSuccess) heard := by
  have authenticate : (app.authenticate request).Yields (fun _ outcome =>
      ∀ refusal, outcome = .error refusal → ¬refusal.IsSuccess) heard := by
    unfold App.authenticate
    dsimp only
    split
    · rintro answer refusal ⟨⟩
      exact Response.not_isSuccess_ofFailure _
    · refine (Task.yields_true _).bind fun heard verdict _ => ?_
      rcases verdict with e | _ | accepted
      · rintro answer refusal ⟨⟩
        exact Response.not_isSuccess_ofFailure _
      · rintro refusal ⟨⟩
        exact Response.not_isSuccess_ofFailure _
      · rintro refusal ⟨⟩
  refine authenticate.bind fun heard outcome refused => ?_
  cases outcome with
  | error refusal => exact refused
  | ok caller =>
    have authorize : (app.authorize request caller).Yields (fun _ outcome =>
        ∀ refusal, outcome = .error refusal → ¬refusal.IsSuccess) heard := by
      refine (Task.yields_true _).bind fun heard decision _ => ?_
      rcases decision with e | ⟨_ | _ | _, reason⟩
      · rintro answer refusal ⟨⟩
        exact Response.not_isSuccess_ofFailure _
      all_goals
        rintro refusal ⟨⟩
        try exact Response.not_isSuccess_ofFailure _
    refine authorize.bind fun heard outcome refused => ?_
    cases outcome with
    | error refusal =>
      rintro refusal' ⟨⟩
      exact refused refusal rfl
    | ok => rintro refusal ⟨⟩

/-! ### What an application consists of -/

/-- The authenticator of tokens under review is the one that the settings ask for. -/
def ReviewsBy (s : Settings) (post : Webhook.Transport Task)
    (review : Option (TokenAuthenticator Task)) : Prop :=
  match s.tokenReview.backend with
  | .accessTokens => review = some (.audienceAgnostic s.tokenReview.audienceList (storedTokens s))
  | .webhook => ∃ url timeout, review = some (.webhook post url timeout)
  | .none => review = none

/-- The authenticator that is made for reviews is the one that the settings ask for. -/
theorem yields_reviewAuthenticator (s : Settings) (post : Webhook.Transport Task) :
    (reviewAuthenticator s post).Yields (fun _ outcome =>
      ∀ review, outcome = .ok review → ReviewsBy s post review) [] := by
  unfold reviewAuthenticator ReviewsBy
  cases s.tokenReview.backend with
  | accessTokens =>
    rintro review ⟨⟩
    rfl
  | webhook =>
    dsimp only
    split
    · rintro review ⟨⟩
    · intro answer
      dsimp only [Task.done_bind]
      split
      · rintro review ⟨⟩
      · rintro review ⟨⟩
        exact ⟨_, _, rfl⟩
  | none =>
    rintro answer review ⟨⟩
    rfl

/-- Plugins whose factories make one plugin are all that plugin. -/
theorem yields_build {heard : List Exchange} {plugin : Admission.Plugin Task}
    {r : Admission.Registry Task} (configuration : String → ExceptT String Task (Option String))
    {names : List String} (h : ∀ name ∈ names, ∃ factory, r.factories.find? name = some factory ∧
      ∀ text, factory text = .done (.ok plugin)) :
    (r.build configuration names).Yields (fun _ outcome =>
      ∀ plugins, outcome = .ok plugins → plugins = names.map fun _ => plugin) heard := by
  induction names generalizing heard with
  | nil =>
    rintro plugins ⟨⟩
    rfl
  | cons name rest ih =>
    obtain ⟨factory, found, makes⟩ := h name List.mem_cons_self
    unfold Admission.Registry.build
    rw [found]
    dsimp only [Backend.orAbandon, Task.pure_eq, Task.bind_eq, Task.done_bind]
    refine (Task.yields_true _).bind fun heard opened _ => ?_
    cases opened with
    | error reason => rintro plugins ⟨⟩
    | ok text =>
      dsimp only
      rw [makes]
      refine (ih fun other mem => h other (List.mem_cons_of_mem _ mem)).bind
        fun heard others made => ?_
      cases others with
      | error fault => rintro plugins ⟨⟩
      | ok others =>
        rintro plugins ⟨⟩
        rw [made others rfl]
        rfl

/-- The plugins that the settings enable. There is one to choose from. -/
def enabledPlugins (s : Settings) : List (Admission.Plugin Task) :=
  if Admission.AuditLogouts.name ∈ s.admission.pluginNames then [Admission.AuditLogouts.plugin]
  else []

/-- The only plugin that can be enabled notes logouts. -/
theorem eq_of_mem_enabledPlugins {s : Settings} {p : Admission.Plugin Task}
    (mem : p ∈ enabledPlugins s) : p = Admission.AuditLogouts.plugin := by
  unfold enabledPlugins at mem
  split at mem
  · exact List.mem_singleton.1 mem
  · cases mem

/-- The chain that is made has the plugins that the settings enable. -/
theorem yields_admissionChain {heard : List Exchange} (s : Settings)
    (configuration : String → ExceptT String Task (Option String)) :
    (admissionChain s configuration).Yields (fun _ outcome =>
      ∀ plugins, outcome = .ok plugins → plugins = enabledPlugins s) heard := by
  have chain : (Admission.Registry.builtin.chain s.admission.pluginNames configuration).Yields
      (fun _ outcome => ∀ plugins, outcome = .ok plugins → plugins = enabledPlugins s) heard := by
    unfold Admission.Registry.chain
    split
    · rintro plugins ⟨⟩
    · have enabled : ([Admission.AuditLogouts.name].filter
          (s.admission.pluginNames.contains ·)).map (fun _ => Admission.AuditLogouts.plugin) =
          enabledPlugins s := by
        unfold enabledPlugins
        rw [List.filter_singleton, cond_eq_ite]
        simp only [List.contains_iff_mem]
        split <;> rfl
      rw [← enabled]
      refine yields_build configuration fun name mem => ?_
      obtain rfl := List.mem_singleton.1 (List.mem_filter.1 mem).1
      exact ⟨_, KeyedMap.find?_insert .. |>.trans (if_pos rfl), fun text => rfl⟩
  refine chain.bind fun heard outcome made => ?_
  cases outcome with
  | error e => rintro plugins ⟨⟩
  | ok built =>
    rintro answer plugins ⟨⟩
    exact made built rfl

/-- **What an application consists of.** -/
theorem exists_parts_of_assemble {s : Settings} {tokens : List StaticToken}
    {policy : List PolicyRule} {post : Webhook.Transport Task}
    {configuration : String → ExceptT String Task (Option String)} {app : App Task} {w w' : World}
    (assembled : (assemble s tokens policy post configuration).run w = (some (.ok app), w')) :
    ∃ review, app = ofParts s tokens policy review (enabledPlugins s) ∧
      ReviewsBy s post review := by
  have parts : (assemble s tokens policy post configuration).Yields (fun _ outcome =>
      ∀ app, outcome = .ok app → ∃ review,
        app = ofParts s tokens policy review (enabledPlugins s) ∧ ReviewsBy s post review) [] := by
    refine (yields_reviewAuthenticator s post).bind fun heard review reviewed => ?_
    cases review with
    | error e => rintro app ⟨⟩
    | ok review =>
      refine (yields_admissionChain s configuration).bind fun heard plugins admitted => ?_
      cases plugins with
      | error e => rintro app ⟨⟩
      | ok plugins =>
        rintro app ⟨⟩
        exact ⟨review, by rw [admitted plugins rfl], reviewed review rfl⟩
  obtain ⟨-, consists⟩ := parts.of_run assembled
  exact consists app rfl

/-- An application that reviews tokens by its own stored tokens asks them for callers and for
reviews. -/
theorem parts_of_assemble_accessTokens {s : Settings} {tokens : List StaticToken}
    {policy : List PolicyRule} {post : Webhook.Transport Task}
    {configuration : String → ExceptT String Task (Option String)} {app : App Task} {w w' : World}
    (assembled : (assemble s tokens policy post configuration).run w = (some (.ok app), w'))
    (backend : s.tokenReview.backend = .accessTokens) :
    app.authenticator = callerAuthenticator s tokens ∧ app.reviewer = reviewerWith s
      (some (.audienceAgnostic s.tokenReview.audienceList (storedTokens s))) := by
  obtain ⟨review, rfl, reviewed⟩ := exists_parts_of_assemble assembled
  unfold ReviewsBy at reviewed
  rw [backend] at reviewed
  obtain rfl := reviewed
  exact ⟨rfl, rfl⟩

/-- **The parts of an application behave**, with the inactivity timeout of its settings. -/
theorem partsBehave_of_assemble {s : Settings} {tokens : List StaticToken}
    {policy : List PolicyRule} {post : Webhook.Transport Task}
    {configuration : String → ExceptT String Task (Option String)} {app : App Task} {w w' : World}
    (assembled : (assemble s tokens policy post configuration).run w = (some (.ok app), w'))
    (inert : ∀ url seconds review, ∃ reply, post url seconds review = .done reply) :
    app.PartsBehave s.authentication.inactivityTimeout := by
  obtain ⟨review, rfl, reviewed⟩ := exists_parts_of_assemble assembled
  have stored (token : String) (audiences : Option Audiences) :
      (storedTokens s token audiences : Task Verdict).Behaves
        s.authentication.inactivityTimeout [] :=
    TokenAuthenticator.behaves_accessTokens _ token audiences
  refine ⟨fun credentials => ?_, fun attributes => ?_, fun plugin mem change => ?_, ?_⟩
  · refine RequestAuthenticator.behaves_bearer (fun token audiences => ?_) credentials
    refine TokenAuthenticator.behaves_firstAccepted (fun member mem => ?_) []
    rcases List.mem_pair.1 mem with rfl | rfl
    · trivial
    · exact stored token audiences
  · rcases Authorizer.says_union policy attributes with ⟨-, reason, said⟩ | ⟨-, reason, said⟩
    · exact (congrArg (Task.Behaves _ []) said).mpr trivial
    · exact (congrArg (Task.Behaves _ []) said).mpr trivial
  · rw [eq_of_mem_enabledPlugins mem]
    exact (Admission.AuditLogouts.isQuiet_validate change).behaves
  · intro authenticate isSome credentials
    obtain ⟨delegate, rfl, rfl⟩ := Option.map_eq_some_iff.1 isSome
    refine Task.Behaves.bind ?_ fun _ => trivial
    refine RequestAuthenticator.behaves_bearer (fun token audiences => ?_) credentials
    unfold ReviewsBy at reviewed
    split at reviewed
    · obtain rfl := Option.some.inj reviewed
      exact TokenAuthenticator.behaves_audienceAgnostic stored _ token audiences
    · obtain ⟨url, seconds, reviewed⟩ := reviewed
      obtain rfl := Option.some.inj reviewed
      exact (TokenAuthenticator.isQuiet_webhook inert url seconds token audiences).behaves
    · cases reviewed

/-- The application that reviews stored tokens, and has the plugin of this library. -/
def selfContained (s : Settings) (tokens : List StaticToken) (policy : List PolicyRule) :
    App Task :=
  .ofParts s tokens policy
    (some (.audienceAgnostic s.tokenReview.audienceList (storedTokens s)))
    [Admission.AuditLogouts.plugin]

/-- An application that reviews stored tokens is assembled from its settings. -/
theorem run_assemble_selfContained {s : Settings}
    (backend : s.tokenReview.backend = .accessTokens)
    (plugins : s.admission.pluginNames = [Admission.AuditLogouts.name]) (tokens : List StaticToken)
    (policy : List PolicyRule) (post : Webhook.Transport Task) (w : World) :
    ∃ w', (assemble s tokens policy post fun _ => return none).run w =
      (some (.ok (selfContained s tokens policy)), w') := by
  unfold assemble reviewAuthenticator admissionChain
  rw [backend, plugins]
  exact ⟨_, rfl⟩

end App

/-! ### What to give examples with -/

/-- A caller with a configured token. -/
def StaticToken.admin : StaticToken := { token := "secret", user := "admin" }

/-- A token of `alice` is stored under the name `tok`. -/
def World.aliceHolds : World where
  clock := .epoch
  accessTokens := Store.put { capacity := 9 }
    { metadata := { name := "tok", created := some .epoch }, userName := "alice" }
  users := Store.put { capacity := 9 } { metadata := { name := "alice" } }

/-- The caller `admin` may create everything. -/
def PolicyRule.adminCreates : PolicyRule where
  users := ["admin"]
  verbs := ["create"]
  apiGroups := ["*"]
  resources := ["*"]

/-- The caller `admin` may do everything. -/
def PolicyRule.adminRules : PolicyRule where
  users := ["admin"]
  verbs := ["*"]
  apiGroups := ["*"]
  resources := ["*"]

/-- The caller `admin` makes a request without a body. -/
def Http.Request.ofAdmin (method path : String) : Request where
  method := method
  path := path
  headers := [⟨"authorization", textBytes "Bearer secret"⟩]
  body := .empty

/-- The holder of a token asks for the user `alice`. -/
def Http.Request.getAlice (bearer : String) : Request where
  method := "GET"
  path := "/apis/user.openshift.io/v1/users/alice"
  headers := [⟨"authorization", textBytes ("Bearer " ++ bearer)⟩]
  body := .empty

/-- The caller `admin` posts the user `alice`. -/
def Http.Request.postAlice : Request where
  method := "POST"
  path := "/apis/user.openshift.io/v1/users"
  headers := [⟨"authorization", textBytes "Bearer secret"⟩,
    ⟨"content-type", textBytes "application/json"⟩]
  body := ⟨(textBytes
    "\x7b\"metadata\":\x7b\"name\":\"alice\",\"uid\":\"u1\"\x7d\x7d").toArray⟩

/-- The caller `admin` posts a token of `alice`. The body may say when it was created. -/
def Http.Request.postToken (name : String) (created : Option String) (seconds : Nat) :
    Request where
  method := "POST"
  path := "/apis/oauth.openshift.io/v1/oauthaccesstokens"
  headers := [⟨"authorization", textBytes "Bearer secret"⟩,
    ⟨"content-type", textBytes "application/json"⟩]
  body :=
    let text := "\x7b\"metadata\":\x7b\"name\":\"" ++ name ++ "\"" ++
      (created.elim "" fun time => ",\"creationTimestamp\":\"" ++ time ++ "\"") ++
      "\x7d,\"clientName\":\"c\",\"userName\":\"alice\",\"userUID\":\"u1\"," ++
      "\"expiresIn\":" ++ toString seconds ++ "\x7d"
    ⟨(textBytes text).toArray⟩

end TokenAuthority
