/-
# The protocol of a review

A review asks others at two points: the caller's validation, and the authenticator. Here is what it
asks them, what it has checked before, and what it says afterwards (`Reviewer.Protocol`):

| exit | asked | outcome |
| --- | --- | --- |
| a namespace is named | nobody | 400 with its name |
| the token is empty | nobody | 400 |
| the validation fails | the validation | its failure |
| no authenticator | the validation | the review as it was sent |
| the token cannot stand in a header field | the validation | an error in the status |
| the authenticator is late | both | the error of a timeout in the status |
| it ends in an error | both | this error in the status |
| it has nothing to say | both | the review as it was sent |
| it accepts, but for other audiences than those that are wanted | both | 500 |
| it accepts | both | success in the status |

An earlier exit goes before a later one. To tell how often and with what the others are asked, and
not only what comes of it, the same program is run with a log of their answers (`Reviewer.logged`);
without the log it is the reviewer as it was (`Reviewer.forgets_create`).
-/

import TokenAuthority.Proofs.Chaining

namespace TokenAuthority

open Http (Header)
open Resource (TokenReview TokenReviewUser)

namespace Reviewer

/-! ### Programs with a log -/

/-- What a review asks others, and what they answer. -/
inductive Event where
  | validated (shown : TokenReview) (answer : Except Failure Unit)
  | authenticated (handed : Credentials) (answer : Timed)

/-- Tasks that log what others answer. -/
abbrev Logged : Type → Type := StateT (List Event) Task

instance : Backend Logged where
  perform c := StateT.lift (Backend.perform c)
  abandon := StateT.lift Backend.abandon

/-- A task whose answer is logged. -/
def logging {α : Type} (event : α → Event) (task : Task α) : Logged α := do
  let answer ← StateT.lift task
  modify (· ++ [event answer])
  return answer

/-- A task is done, and then its event is logged. -/
theorem logging_apply {α : Type} (event : α → Event) (task : Task α) (log : List Event) :
    logging event task log = task.bind fun answer => .done (answer, log ++ [event answer]) := by
  change (task.bind fun answer => .done (answer, log)).bind _ = _
  rw [Task.bind_assoc]
  rfl

/-- A task runs as before when its event is logged. -/
theorem run_logging {α : Type} (event : α → Event) {task : Task α} {w w' : World} {answer : α}
    (ran : task.run w = (some answer, w')) (log : List Event) :
    (logging event task log).run w = (some (answer, log ++ [event answer]), w') := by
  rw [logging_apply, Task.run_bind_of_some ran]
  rfl

/-- The reviewer, with a log of what its authenticator answers. -/
def logged (r : Reviewer Task) : Reviewer Logged where
  authenticator := r.authenticator.map fun authenticate credentials =>
    logging (.authenticated credentials) (authenticate credentials)
  audiences := r.audiences
  timeout := r.timeout
  exposesErrors := r.exposesErrors

/-- The validation, with a log of what it answers. -/
def loggedValidation (validate : TokenReview → Task (Except Failure Unit)) (review : TokenReview) :
    Logged (Except Failure Unit) :=
  logging (.validated review) (validate review)

/-- Whatever has been logged before, a program does what a task does, and logs something besides. -/
def Forgets {α : Type} (program : Logged α) (task : Task α) : Prop :=
  ∀ log, (program log).bind (fun logged => .done logged.1) = task

namespace Forgets

variable {α β : Type}

/-- A program with nothing to do does nothing. -/
theorem pure (a : α) : Forgets (pure a) (.done a) :=
  fun _ => rfl

/-- Two programs, one after the other, do what two tasks do so. -/
theorem bind {program : Logged α} {task : Task α} {f : α → Logged β} {g : α → Task β}
    (h : Forgets program task) (next : ∀ a, Forgets (f a) (g a)) :
    Forgets (program >>= f) (task.bind g) := by
  intro log
  rw [← h log, Task.bind_assoc]
  change ((program log).bind fun logged => f logged.1 logged.2).bind _ = _
  rw [Task.bind_assoc]
  exact congrArg (Task.bind _) (funext fun logged => next logged.1 logged.2)

/-- A task that is lifted does what it does. -/
theorem lift (task : Task α) : Forgets (StateT.lift task) task := by
  intro log
  change (task.bind fun a => .done (a, log)).bind _ = _
  rw [Task.bind_assoc]
  exact Task.bind_done task

/-- A task whose event is logged does what the task does. -/
theorem logging (event : α → Event) (task : Task α) : Forgets (logging event task) task := by
  intro log
  rw [logging_apply, Task.bind_assoc]
  exact Task.bind_done task

end Forgets

section Unlogged

variable (r : Reviewer Task) (review : TokenReview)

/-- The logged authenticator is the authenticator, with its event logged. -/
theorem authenticator_logged :
    r.logged.authenticator = r.authenticator.map fun authenticate credentials =>
      logging (.authenticated credentials) (authenticate credentials) := rfl

/-- The audiences are the same when events are logged. -/
theorem wanted_logged : r.logged.wanted review = r.wanted review := rfl

/-- Nobody is asked once there is a verdict. -/
theorem conclude_logged (verdict : Verdict) :
    r.logged.conclude review verdict = StateT.lift (r.conclude review verdict) := by
  rcases verdict with e | _ | accepted
  · exact funext fun log => rfl
  · exact funext fun log => rfl
  · unfold conclude
    rw [wanted_logged]
    dsimp only
    cases !(r.wanted review).isEmpty && ((r.wanted review).shared accepted.audiences).isEmpty with
    | true => exact funext fun log => rfl
    | false => exact funext fun log => rfl

/-- The verdict is the same when events are logged. -/
theorem forgets_verdict : Forgets (r.logged.verdict review) (r.verdict review) := by
  unfold verdict
  rw [authenticator_logged, wanted_logged]
  cases r.authenticator with
  | none => exact .pure _
  | some authenticate =>
    cases credentials? review.spec.token (r.wanted review) with
    | none => exact .pure _
    | some credentials => exact (Forgets.logging _ _).bind fun answer => .pure (r.inTime answer)

/-- The authentication of a review is the same when events are logged. -/
theorem forgets_authenticate :
    Forgets (r.logged.authenticate review) (r.authenticate review) := by
  refine (r.forgets_verdict review).bind fun verdict => ?_
  rw [conclude_logged]
  exact .lift _

/-- **Without the log, a reviewer is as it was.** -/
theorem forgets_create (ns : Option String)
    (validate : Option (TokenReview → Task (Except Failure Unit))) :
    Forgets (r.logged.create ns review (validate.map loggedValidation))
      (r.create ns review validate) := by
  unfold create
  split
  · exact .pure _
  · dsimp only [Task.pure_eq, Task.bind_eq, Task.done_bind, pure_bind]
    split
    · exact .pure _
    · cases validate with
      | none => exact r.forgets_authenticate review
      | some validate =>
        refine (Forgets.logging _ _).bind fun valid => ?_
        cases valid with
        | error failure => exact .pure _
        | ok => exact r.forgets_authenticate review

end Unlogged

/-! ### The protocol -/

/-- A review names a namespace, in the request or else in its metadata. The empty text names
none. -/
inductive Names (ns : Option String) (review : TokenReview) : String → Prop where
  | requested {name : String} (named : ns = some name) (nonempty : name ≠ "") :
      Names ns review name
  | own {name : String} (unrequested : ns = none ∨ ns = some "")
      (named : review.metadata.namespaceName = some name) (nonempty : name ≠ "") :
      Names ns review name

/-- What an authenticator is handed for a review: one header field, which carries the token, and the
audiences of the review, or else those of the server, if there are any. -/
structure Hands (r : Reviewer Task) (review : TokenReview) (handed : Credentials) : Prop where
  headers : handed.headers =
    [⟨"authorization", Http.textBytes ("Bearer " ++ review.spec.token)⟩]
  own : review.spec.audiences ≠ [] → handed.audiences = some review.spec.audiences
  server : review.spec.audiences = [] → r.audiences ≠ [] → handed.audiences = some r.audiences
  neither : review.spec.audiences = [] → r.audiences = [] → handed.audiences = none

/-- What becomes of a review with a verdict. -/
inductive Concludes (r : Reviewer Task) (review : TokenReview) :
    Verdict → Except Failure TokenReview → Prop where
  | failed (e : AuthenticationError) :
      Concludes r review (.error e) (.ok { review with
        status := { review.status with
          error := some (if r.exposesErrors then e.message else "token authentication failed") } })
  | silent : Concludes r review (.ok none) (.ok review)
  | mismatched {accepted : Accepted} (wants : r.wanted review ≠ [])
      (disjoint : ∀ audience ∈ r.wanted review, audience ∉ accepted.audiences) :
      Concludes r review (.ok (some accepted)) (.error (.internal "error validating audiences"))
  | accepted {accepted : Accepted} (shares : r.wanted review ≠ [] →
      ∃ audience ∈ r.wanted review, audience ∈ accepted.audiences) :
      Concludes r review (.ok (some accepted)) (.ok { review with
        status := {
          authenticated := true
          user := some {
            username := accepted.user.name
            uid := accepted.user.uid
            groups := accepted.user.groups
            extra := accepted.user.extra }
          audiences := accepted.audiences
          error := review.status.error } })

/-- The part of the protocol that begins when all checks have passed: what is asked, and what
becomes of the review. -/
inductive Authenticates (r : Reviewer Task) (review : TokenReview) :
    List Event → Except Failure TokenReview → Prop where
  | unconfigured (missing : r.authenticator = none) : Authenticates r review [] (.ok review)
  | unusable {outcome : Except Failure TokenReview} (configured : r.authenticator.isSome = true)
      (illegal : ¬Bearer.IsLegal review.spec.token)
      (concludes : Concludes r review (.error .invalidBearerToken) outcome) :
      Authenticates r review [] outcome
  | late {handed : Credentials} {answer : Timed} {outcome : Except Failure TokenReview}
      (configured : r.authenticator.isSome = true) (legal : Bearer.IsLegal review.spec.token)
      (hands : Hands r review handed) (late : r.timeout < answer.delay)
      (concludes : Concludes r review (.error .timeout) outcome) :
      Authenticates r review [.authenticated handed answer] outcome
  | answered {handed : Credentials} {answer : Timed} {outcome : Except Failure TokenReview}
      (configured : r.authenticator.isSome = true) (legal : Bearer.IsLegal review.spec.token)
      (hands : Hands r review handed) (inTime : answer.delay ≤ r.timeout)
      (concludes : Concludes r review answer.verdict outcome) :
      Authenticates r review [.authenticated handed answer] outcome

/-- The protocol of a review: what is asked, in order, and what becomes of the review. -/
inductive Protocol (r : Reviewer Task) (ns : Option String) (review : TokenReview)
    (validates : Bool) : List Event → Except Failure TokenReview → Prop where
  | namespaced {name : String} (names : Names ns review name) :
      Protocol r ns review validates []
        (.error (.badRequest ("namespace is not allowed on this type: " ++ name)))
  | tokenless (cluster : ∀ name, ¬Names ns review name) (empty : review.spec.token = "") :
      Protocol r ns review validates []
        (.error (.badRequest "token is required for TokenReview in authentication"))
  | invalid {failure : Failure} (cluster : ∀ name, ¬Names ns review name)
      (given : review.spec.token ≠ "") (validated : validates = true) :
      Protocol r ns review validates [.validated review (.error failure)] (.error failure)
  | valid {events : List Event} {outcome : Except Failure TokenReview}
      (cluster : ∀ name, ¬Names ns review name) (given : review.spec.token ≠ "")
      (validated : validates = true) (authenticates : Authenticates r review events outcome) :
      Protocol r ns review validates (.validated review (.ok ()) :: events) outcome
  | unvalidated {events : List Event} {outcome : Except Failure TokenReview}
      (cluster : ∀ name, ¬Names ns review name) (given : review.spec.token ≠ "")
      (unvalidated : validates = false) (authenticates : Authenticates r review events outcome) :
      Protocol r ns review validates events outcome

section Follows

variable {r : Reviewer Task} {ns : Option String} {review : TokenReview} {w w' : World}

/-- The program finds the namespace that a review names. -/
theorem namespace?_eq_some_iff {name : String} : namespace? ns review = some name ↔
    Names ns review name := by
  unfold namespace?
  constructor
  · intro named
    obtain requested | ⟨unrequested, own⟩ := (Option.orElse_eq_some ..).1 named
    · obtain ⟨isName, nonempty⟩ := Option.filter_eq_some_iff.1 requested
      exact .requested isName (by simpa using nonempty)
    · obtain ⟨isName, nonempty⟩ := Option.filter_eq_some_iff.1 own
      refine .own ?_ isName (by simpa using nonempty)
      rcases ns with _ | given
      · exact .inl rfl
      · exact .inr (by simpa using unrequested)
  · rintro (⟨rfl, nonempty⟩ | ⟨rfl | rfl, named, nonempty⟩)
    · simp [nonempty]
    · simp [named, nonempty]
    · simp [named, nonempty]

/-- The program finds no namespace when a review names none. -/
theorem namespace?_eq_none_iff : namespace? ns review = none ↔
    ∀ name, ¬Names ns review name := by
  simp only [← namespace?_eq_some_iff, Option.eq_none_iff_forall_ne_some]

/-- The credentials of a legal token are what an authenticator is to be handed. -/
theorem hands_credentials (r : Reviewer Task) (review : TokenReview) :
    Hands r review (Bearer.credentials review.spec.token (r.wanted review)) where
  headers := rfl
  own given := by simp [Bearer.credentials, wanted, given]
  server unnamed given := by simp [Bearer.credentials, wanted, unnamed, given]
  neither unnamed empty := by simp [Bearer.credentials, wanted, unnamed, empty]

/-- What the program makes of a review is what is to become of it. -/
theorem concludes_conclusion (r : Reviewer Task) (review : TokenReview) (verdict : Verdict) :
    Concludes r review verdict (r.conclusion review verdict) := by
  rcases verdict with e | _ | accepted
  · exact .failed e
  · exact .silent
  · unfold conclusion
    dsimp only
    split
    · rename_i mismatch
      exact .mismatched mismatch.1 (Audiences.shared_eq_nil_iff.1 mismatch.2)
    · rename_i agree
      refine .accepted fun wants => ?_
      by_contra disjoint
      refine agree ⟨wants, Audiences.shared_eq_nil_iff.2 fun audience mem told => ?_⟩
      exact disjoint ⟨audience, mem, told⟩

/-- An answer in time is concluded from, and a late one is an error. -/
theorem authenticates_of_answer (configured : r.authenticator.isSome = true)
    (legal : Bearer.IsLegal review.spec.token) {handed : Credentials}
    (hands : Hands r review handed) (answer : Timed) :
    Authenticates r review [.authenticated handed answer]
      (r.conclusion review (r.inTime answer)) := by
  by_cases inTime : answer.delay ≤ r.timeout
  · refine .answered configured legal hands inTime ?_
    rw [Reviewer.inTime, if_pos inTime]
    exact concludes_conclusion r review _
  · refine .late configured legal hands (Nat.not_le.1 inTime) ?_
    rw [Reviewer.inTime, if_neg inTime]
    exact concludes_conclusion r review _

/-- Once there is a verdict, the review is concluded. -/
theorem exists_run_logged_authenticate {verdict : Verdict} {log log' : List Event}
    (ran : (r.logged.verdict review log).run w = (some (verdict, log'), w')) :
    ∃ w'', (r.logged.authenticate review log).run w =
      (some (r.conclusion review verdict, log'), w'') := by
  obtain ⟨w'', concluded, -⟩ := r.exists_run_conclude review verdict w'
  refine ⟨w'', (Task.run_bind_of_some ran).trans ?_⟩
  dsimp only
  rw [conclude_logged]
  exact (Task.run_bind_of_some concluded).trans rfl

/-- The authentication of a review follows the protocol if the authenticator answers. -/
theorem exists_authenticates (log : List Event)
    (answers : ∀ authenticate, r.authenticator = some authenticate → ∀ handed,
      Hands r review handed → ((authenticate handed).run w).1 ≠ none) :
    ∃ events outcome w', (r.logged.authenticate review log).run w =
      (some (outcome, log ++ events), w') ∧ Authenticates r review events outcome := by
  cases configured : r.authenticator with
  | none =>
    have ran : (r.logged.verdict review log).run w = (some (.ok none, log), w) := by
      unfold verdict
      rw [authenticator_logged, configured]
      rfl
    obtain ⟨w', concluded⟩ := exists_run_logged_authenticate ran
    exact ⟨[], _, w', log.append_nil.symm ▸ concluded, .unconfigured configured⟩
  | some authenticate =>
    have isConfigured : r.authenticator.isSome = true := configured ▸ rfl
    by_cases legal : Bearer.IsLegal review.spec.token
    · let handed := Bearer.credentials review.spec.token (r.wanted review)
      have hands : Hands r review handed := hands_credentials r review
      obtain ⟨answer, said⟩ := Option.ne_none_iff_exists'.1 (answers _ configured _ hands)
      have ran : (r.logged.verdict review log).run w =
          (some (r.inTime answer, log ++ [.authenticated handed answer]),
            ((authenticate handed).run w).2) := by
        unfold verdict
        rw [authenticator_logged, configured, wanted_logged, Bearer.credentials?_of_isLegal legal]
        exact (Task.run_bind_of_some (run_logging _ (Prod.ext said rfl) log)).trans rfl
      obtain ⟨w', concluded⟩ := exists_run_logged_authenticate ran
      exact ⟨_, _, w', concluded, authenticates_of_answer isConfigured legal hands answer⟩
    · have ran : (r.logged.verdict review log).run w =
          (some (.error .invalidBearerToken, log), w) := by
        unfold verdict
        rw [authenticator_logged, configured, wanted_logged,
          Bearer.credentials?_of_not_isLegal legal]
        rfl
      obtain ⟨w', concluded⟩ := exists_run_logged_authenticate ran
      exact ⟨[], _, w', log.append_nil.symm ▸ concluded,
        .unusable isConfigured legal (concludes_conclusion r review _)⟩

end Follows

/-- The validation, if there is one, lets a review pass, and leaves a world. -/
inductive Passes (review : TokenReview) (w : World) :
    Option (TokenReview → Task (Except Failure Unit)) → World → Prop where
  | unvalidated : Passes review w none w
  | validated {validate : TokenReview → Task (Except Failure Unit)} {w' : World}
      (ran : (validate review).run w = (some (.ok ()), w')) : Passes review w (some validate) w'

/-- **A reviewer keeps to its protocol, whatever it is sent.** Let the validation answer, if there
is one, and so let the authenticator, if it is asked. Then there is an outcome, the reviewer asks
what the protocol says, each just once and in its order, and the outcome is what the protocol makes
of the answers. -/
theorem create_follows_protocol (r : Reviewer Task) (ns : Option String) (review : TokenReview)
    (validate : Option (TokenReview → Task (Except Failure Unit))) (w : World)
    (validates : ∀ v ∈ validate, ((v review).run w).1 ≠ none)
    (answers : ∀ authenticate, r.authenticator = some authenticate → ∀ handed w₁,
      Hands r review handed → Passes review w validate w₁ →
        ((authenticate handed).run w₁).1 ≠ none) :
    ∃ events outcome w', (r.create ns review validate).run w = (some outcome, w') ∧
      ((r.logged.create ns review (validate.map loggedValidation)).run []).run w =
        (some (outcome, events), w') ∧
      Protocol r ns review validate.isSome events outcome := by
  -- the log is all that has to be looked at
  suffices follows : ∃ events outcome w',
      ((r.logged.create ns review (validate.map loggedValidation)).run []).run w =
        (some (outcome, events), w') ∧ Protocol r ns review validate.isSome events outcome by
    obtain ⟨events, outcome, w', ran, protocol⟩ := follows
    refine ⟨events, outcome, w', ?_, ran, protocol⟩
    rw [← r.forgets_create review ns validate []]
    exact (Task.run_bind_of_some ran).trans rfl
  unfold create
  cases named : namespace? ns review with
  | some name => exact ⟨[], _, w, rfl, .namespaced (namespace?_eq_some_iff.1 named)⟩
  | none =>
    have cluster := namespace?_eq_none_iff.1 named
    dsimp only [pure_bind]
    split
    · rename_i empty
      exact ⟨[], _, w, rfl, .tokenless cluster empty⟩
    · rename_i given
      cases validate with
      | none =>
        obtain ⟨events, outcome, w', ran, authenticates⟩ := exists_authenticates (w := w) []
          fun authenticate configured handed hands =>
            answers authenticate configured handed w hands .unvalidated
        exact ⟨events, outcome, w', ran, .unvalidated cluster given rfl authenticates⟩
      | some validate =>
        obtain ⟨valid, said⟩ := Option.ne_none_iff_exists'.1 (validates validate rfl)
        have validated := run_logging (.validated review)
          (Prod.ext said rfl : (validate review).run w = (some valid, _)) []
        cases valid with
        | error failure =>
          exact ⟨_, _, _, (Task.run_bind_of_some validated).trans rfl,
            .invalid cluster given rfl⟩
        | ok =>
          obtain ⟨events, outcome, w', ran, authenticates⟩ := exists_authenticates
            (w := ((validate review).run w).2) [.validated review (.ok ())]
            fun authenticate configured handed hands =>
              answers authenticate configured handed _ hands (.validated (Prod.ext said rfl))
          exact ⟨_, outcome, w', (Task.run_bind_of_some validated).trans ran,
            .valid cluster given rfl authenticates⟩

/-- The hypotheses of `create_follows_protocol` are satisfiable: a validation and an authenticator,
which both read the clock, are asked about a token of `alice`, and it is accepted. -/
theorem create_follows_protocol_alice :
    let r : Reviewer Task := {
      authenticator := some fun _ => .call .now fun _ => .done {
        verdict := .ok (some { user := .named "alice", audiences := ["api", "web"] })
        delay := 3 }
      audiences := ["ops"] }
    let validate : TokenReview → Task (Except Failure Unit) := fun _ =>
      .call .now fun _ => .done (.ok ())
    let review := (TokenReview.forToken "abc").withAudiences ["web"]
    ∃ events review' w', (r.create none review (some validate)).run .aliceHolds =
        (some (.ok review'), w') ∧
      Protocol r none review true events (.ok review') ∧ events.length = 2 ∧
      review'.status.authenticated = true := by
  intro r validate review
  obtain ⟨events, outcome, w', ran, logged, protocol⟩ := create_follows_protocol r none review
    (some validate) .aliceHolds (by rintro _ ⟨⟩; exact nofun)
    (by rintro _ ⟨⟩ handed w₁ - -; exact nofun)
  have reviewed : ((r.create none review (some validate)).run .aliceHolds).1.map
      (·.toOption.map (·.status.authenticated)) = some (some true) := by decide +kernel
  have asked : (((r.logged.create none review (some (loggedValidation validate))).run []).run
      .aliceHolds).1.map (·.2.length) = some 2 := by decide +kernel
  rw [ran] at reviewed
  have isLogged : ((r.logged.create none review (some (loggedValidation validate))).run []).run
      .aliceHolds = (some (outcome, events), w') := logged
  rw [isLogged] at asked
  obtain ⟨review', isOk, authenticated⟩ := Option.map_eq_some_iff.1 (Option.some.inj reviewed)
  obtain rfl : outcome = .ok review' := by
    cases outcome <;> cases isOk
    rfl
  exact ⟨events, review', w', ran, protocol, Option.some.inj asked, authenticated⟩

end Reviewer

end TokenAuthority
