/-
# What a review reports

A review is changed in place, and what its sender has put into the status stays there unless
something is written over it:

| authentication | writes | leaves |
| --- | --- | --- |
| accepts | `authenticated`, `user`, `audiences` | `error` |
| ends in an error | `error` | `authenticated`, `user`, `audiences` |
| says nothing, or there is no authenticator | | all of them |

So a status reports what authentication came to (`Reports`) exactly when what is left was blank
before (`Reviewer.create_reports_iff`), and a sender can have anything else reported
(`Reviewer.create_keeps_authenticated`).
-/

import TokenAuthority.Review

namespace TokenAuthority

open Resource (TokenReview TokenReviewStatus)

/-- A status tells whether authentication accepted and whether it ended in an error, and names
nobody unless it accepted. -/
structure Reports (status : TokenReviewStatus) (accepted errored : Prop) : Prop where
  authenticated : status.authenticated = true ↔ accepted
  anonymous : status.authenticated = false → status.user = none ∧ status.audiences = []
  error : status.error.isSome = true ↔ errored

namespace Reports

variable {status : TokenReviewStatus} {accepted errored : Prop}

/-- A status of what was not accepted names nobody. -/
theorem blank_of_not_accepted (h : Reports status accepted errored) (no : ¬accepted) :
    status.authenticated = false ∧ status.user = none ∧ status.audiences = [] :=
  have unset := Bool.eq_false_iff.2 fun set => no (h.authenticated.1 set)
  ⟨unset, h.anonymous unset⟩

/-- A status tells no error where there was none. -/
theorem error_eq_none (h : Reports status accepted errored) (no : ¬errored) :
    status.error = none :=
  Option.not_isSome_iff_eq_none.1 fun set => no (h.error.1 set)

/-- A status that names nobody reports a rejection. -/
theorem of_blank (no : ¬accepted) (error : status.error.isSome = true ↔ errored)
    (blank : status.authenticated = false ∧ status.user = none ∧ status.audiences = []) :
    Reports status accepted errored where
  authenticated := ⟨fun set => absurd set (by simp [blank.1]), fun yes => absurd yes no⟩
  anonymous _ := blank.2
  error := error

end Reports

namespace Reviewer

variable {r : Reviewer Task} {review review' : TokenReview} {verdict : Verdict} {w w' : World}

/-- The authenticator is configured, is called for a review and answers. -/
def Answers (r : Reviewer Task) (review : TokenReview) (w : World) (answer : Timed) : Prop :=
  ∃ authenticator credentials w', r.authenticator = some authenticator ∧
    credentials? review.spec.token (r.wanted review) = some credentials ∧
    (authenticator credentials).run w = (some answer, w')

/-- The authenticator accepts the token of a review in time. -/
def Accepts (r : Reviewer Task) (review : TokenReview) (w : World) : Prop :=
  ∃ answer, r.Answers review w answer ∧ answer.delay ≤ r.timeout ∧
    ∃ accepted, answer.verdict = .ok (some accepted)

/-- The authentication of a review's token ends in an error. -/
inductive Errs (r : Reviewer Task) (review : TokenReview) (w : World) : Prop where
  | unusable (configured : r.authenticator.isSome = true)
      (illegal : credentials? review.spec.token (r.wanted review) = none)
  | late {answer : Timed} (answers : r.Answers review w answer) (late : r.timeout < answer.delay)
  | failed {answer : Timed} {e : AuthenticationError} (answers : r.Answers review w answer)
      (inTime : answer.delay ≤ r.timeout) (failed : answer.verdict = .error e)

/-- A call for a review has one answer. -/
theorem Answers.unique {a b : Timed} (ha : r.Answers review w a) (hb : r.Answers review w b) :
    a = b := by
  obtain ⟨f, credentials, w₁, configured, legal, ran⟩ := ha
  obtain ⟨g, credentials', w₂, configured', legal', ran'⟩ := hb
  obtain rfl : f = g := Option.some.inj (configured.symm.trans configured')
  obtain rfl : credentials = credentials' := Option.some.inj (legal.symm.trans legal')
  exact Option.some.inj (congrArg Prod.fst (ran.symm.trans ran'))

/-- The verdict on a legal token is the answer of the authenticator, if it is in time. -/
theorem verdict_of_legal {authenticator : Credentials → Task Timed} {credentials : Credentials}
    (configured : r.authenticator = some authenticator)
    (legal : credentials? review.spec.token (r.wanted review) = some credentials) :
    r.verdict review = (authenticator credentials).bind fun answer => .done (r.inTime answer) := by
  unfold Reviewer.verdict
  rw [configured]
  dsimp only
  rw [legal]
  rfl

/-- What a verdict makes of a review. -/
def conclusion (r : Reviewer Task) (review : TokenReview) : Verdict → Except Failure TokenReview
  | .error e => .ok { review with status := { review.status with error := some (r.errorText e) } }
  | .ok none => .ok review
  | .ok (some accepted) =>
    if r.wanted review ≠ [] ∧ (r.wanted review).shared accepted.audiences = [] then
      .error (.internal "error validating audiences")
    else .ok (accept review accepted)

/-- A verdict is concluded by what it makes of the review, perhaps with a message in the journal. -/
theorem conclude_cases (r : Reviewer Task) (review : TokenReview) (verdict : Verdict) :
    r.conclude review verdict = .done (r.conclusion review verdict) ∨
      ∃ severity text, r.conclude review verdict =
        .call (.record (.message severity text)) fun _ => .done (r.conclusion review verdict) := by
  rcases verdict with e | _ | accepted
  · exact .inr ⟨_, _, rfl⟩
  · exact .inl rfl
  · unfold conclude conclusion
    simp only [Bool.and_eq_true, Bool.not_eq_true', List.isEmpty_eq_false_iff, List.isEmpty_iff]
    split
    · exact .inr ⟨_, _, rfl⟩
    · exact .inl rfl

/-- Where a verdict comes from. -/
theorem cases_run_verdict (h : (r.verdict review).run w = (some verdict, w')) :
    (r.authenticator = none ∧ verdict = .ok none) ∨
      (r.authenticator.isSome = true ∧ credentials? review.spec.token (r.wanted review) = none ∧
        verdict = .error .invalidBearerToken) ∨
      ∃ answer, r.Answers review w answer ∧ verdict = r.inTime answer := by
  cases configured : r.authenticator with
  | none =>
    unfold Reviewer.verdict at h
    rw [configured] at h
    exact .inl ⟨rfl, (Option.some.inj (congrArg Prod.fst h)).symm⟩
  | some authenticator =>
    cases legal : credentials? review.spec.token (r.wanted review) with
    | none =>
      unfold Reviewer.verdict at h
      rw [configured] at h
      dsimp only at h
      rw [legal] at h
      exact .inr (.inl ⟨rfl, rfl, (Option.some.inj (congrArg Prod.fst h)).symm⟩)
    | some credentials =>
      rw [verdict_of_legal configured legal, Task.run_bind] at h
      split at h
      · rename_i answer w₁ ran
        exact .inr (.inr ⟨answer, ⟨_, _, w₁, configured, legal, ran⟩,
          (Option.some.inj (congrArg Prod.fst h)).symm⟩)
      · simp at h

/-- A token is accepted exactly when the verdict accepts it. -/
theorem accepts_iff (h : (r.verdict review).run w = (some verdict, w')) :
    r.Accepts review w ↔ ∃ accepted, verdict = .ok (some accepted) := by
  constructor
  · rintro ⟨answer, answers, inTime, accepted, said⟩
    obtain ⟨none, -⟩ | ⟨-, none, -⟩ | ⟨answer', answers', rfl⟩ := cases_run_verdict h
    · obtain ⟨_, _, _, configured, -⟩ := answers
      simp [none] at configured
    · obtain ⟨_, _, _, -, legal, -⟩ := answers
      simp [none] at legal
    · obtain rfl := answers.unique answers'
      exact ⟨accepted, by rw [Reviewer.inTime, if_pos inTime, said]⟩
  · rintro ⟨accepted, rfl⟩
    obtain ⟨-, none⟩ | ⟨-, -, none⟩ | ⟨answer, answers, said⟩ := cases_run_verdict h
    · simp at none
    · simp at none
    · unfold Reviewer.inTime at said
      split at said
      · exact ⟨answer, answers, ‹_›, accepted, said.symm⟩
      · simp at said

/-- A review ends in an error exactly when the verdict is one. -/
theorem errs_iff (h : (r.verdict review).run w = (some verdict, w')) :
    r.Errs review w ↔ ∃ e, verdict = .error e := by
  constructor
  · intro errs
    obtain ⟨none, -⟩ | ⟨-, -, rfl⟩ | ⟨answer, answers, rfl⟩ := cases_run_verdict h
    · rcases errs with ⟨configured, -⟩ | ⟨⟨_, _, _, configured, -⟩, -⟩ |
        ⟨⟨_, _, _, configured, -⟩, -, -⟩ <;> simp [none] at configured
    · exact ⟨_, rfl⟩
    · rcases errs with ⟨-, illegal⟩ | ⟨answers', late⟩ | ⟨answers', inTime, failed⟩
      · obtain ⟨_, _, _, -, legal, -⟩ := answers
        simp [illegal] at legal
      · obtain rfl := answers.unique answers'
        exact ⟨_, if_neg (Nat.not_le.2 late)⟩
      · obtain rfl := answers.unique answers'
        exact ⟨_, by rw [Reviewer.inTime, if_pos inTime, failed]⟩
  · rintro ⟨e, rfl⟩
    obtain ⟨-, none⟩ | ⟨configured, illegal, -⟩ | ⟨answer, answers, said⟩ := cases_run_verdict h
    · simp at none
    · exact .unusable configured illegal
    · unfold Reviewer.inTime at said
      split at said
      · exact .failed answers ‹_› said.symm
      · exact .late answers (Nat.not_le.1 ‹_›)

/-- What is left of the status decides whether a verdict is reported. -/
theorem reports_iff_of_run_conclude {accepted errored : Prop}
    (accepts : accepted ↔ ∃ a, verdict = .ok (some a)) (errs : errored ↔ ∃ e, verdict = .error e)
    (h : (r.conclude review verdict).run w = (some (.ok review'), w')) :
    Reports review'.status accepted errored ↔ (¬errored → review.status.error = none) ∧
      (¬accepted → review.status.authenticated = false ∧ review.status.user = none ∧
        review.status.audiences = []) := by
  rcases verdict with e | _ | a
  · obtain rfl := Except.ok.inj (Option.some.inj (congrArg Prod.fst h))
    have rejected : ¬accepted := by simp [accepts]
    have failed : errored := errs.2 ⟨e, rfl⟩
    constructor
    · intro reports
      exact ⟨fun fine => absurd failed fine, fun no => reports.blank_of_not_accepted no⟩
    · rintro ⟨-, blank⟩
      exact .of_blank rejected ⟨fun _ => failed, fun _ => rfl⟩ (blank rejected)
  · obtain rfl := Except.ok.inj (Option.some.inj (congrArg Prod.fst h))
    have rejected : ¬accepted := by simp [accepts]
    have fine : ¬errored := by simp [errs]
    constructor
    · intro reports
      exact ⟨reports.error_eq_none, reports.blank_of_not_accepted⟩
    · rintro ⟨noError, blank⟩
      exact .of_blank rejected
        ⟨fun set => absurd set (by simp [noError fine]), fun failed => absurd failed fine⟩
        (blank rejected)
  · unfold conclude at h
    dsimp only at h
    split at h
    · exact absurd (Option.some.inj (congrArg Prod.fst h)) (by simp)
    · obtain rfl := Except.ok.inj (Option.some.inj (congrArg Prod.fst h))
      have yes : accepted := accepts.2 ⟨a, rfl⟩
      have fine : ¬errored := by simp [errs]
      constructor
      · intro reports
        exact ⟨reports.error_eq_none, fun no => absurd yes no⟩
      · rintro ⟨noError, -⟩
        exact ⟨⟨fun _ => yes, fun _ => rfl⟩, fun unset => absurd unset (by simp [accept]),
          ⟨fun set => absurd set (by simp [accept, noError fine]), fun failed => absurd failed fine⟩⟩

/-- A review that ended came to a verdict, and was concluded from it. -/
theorem exists_run_verdict_of_run_authenticate
    (h : (r.authenticate review).run w = (some (.ok review'), w')) :
    ∃ verdict w₁, (r.verdict review).run w = (some verdict, w₁) ∧
      (r.conclude review verdict).run w₁ = (some (.ok review'), w') := by
  unfold authenticate at h
  rw [Task.bind_eq, Task.run_bind] at h
  split at h
  · exact ⟨_, _, ‹_›, h⟩
  · simp at h

/-- A review that is returned was authenticated, after the validation if there is one. -/
theorem exists_run_authenticate_of_run_create {requestedNamespace : Option String}
    {validate : Option (TokenReview → Task (Except Failure Unit))}
    (h : (r.create requestedNamespace review validate).run w = (some (.ok review'), w')) :
    ∃ w₀, (∀ v ∈ validate, (v review).run w = (some (.ok ()), w₀)) ∧ (validate = none → w₀ = w) ∧
      (r.authenticate review).run w₀ = (some (.ok review'), w') := by
  unfold create at h
  split at h
  · simp at h
  · split at h
    · simp at h
    · rcases validate with _ | validate
      · exact ⟨w, by simp, fun _ => rfl, h⟩
      · dsimp only at h
        rw [Task.bind_eq, Task.run_bind] at h
        split at h
        · rename_i outcome w₀ ran
          cases outcome with
          | error failure => simp at h
          | ok _ => exact ⟨w₀, by simpa using ran, by simp, h⟩
        · simp at h

/-- **A review reports what authentication came to exactly if its sender left the rest blank.**
Authentication takes place in a world `w₀`, which is the first one unless a validation comes
before. -/
theorem create_reports_iff {requestedNamespace : Option String}
    {validate : Option (TokenReview → Task (Except Failure Unit))}
    (h : (r.create requestedNamespace review validate).run w = (some (.ok review'), w')) :
    ∃ w₀, (∀ v ∈ validate, (v review).run w = (some (.ok ()), w₀)) ∧ (validate = none → w₀ = w) ∧
      (Reports review'.status (r.Accepts review w₀) (r.Errs review w₀) ↔
        (¬r.Errs review w₀ → review.status.error = none) ∧
          (¬r.Accepts review w₀ → review.status.authenticated = false ∧
            review.status.user = none ∧ review.status.audiences = [])) := by
  obtain ⟨w₀, validated, unvalidated, authenticated⟩ := exists_run_authenticate_of_run_create h
  obtain ⟨verdict, w₁, ran, concluded⟩ := exists_run_verdict_of_run_authenticate authenticated
  exact ⟨w₀, validated, unvalidated,
    reports_iff_of_run_conclude (accepts_iff ran) (errs_iff ran) concluded⟩

/-- An authenticator that answers the same whatever it is asked decides on a token that can stand in
a header field. -/
theorem verdict_of_constant (said : Verdict) {review : TokenReview}
    (token : review.spec.token = "abc") (audiences : review.spec.audiences = []) :
    ({ authenticator := some fun _ => return { verdict := said } } : Reviewer Task).verdict review =
      .done said := by
  obtain ⟨credentials, legal⟩ : ∃ credentials, credentials? "abc" [] = some credentials :=
    Option.isSome_iff_exists.1 (by decide +kernel)
  unfold Reviewer.verdict wanted
  rw [token, audiences]
  dsimp only [List.isEmpty, if_true]
  rw [if_pos rfl, legal]
  rfl

/-- The hypothesis of `create_reports_iff` is satisfiable: a review with a blank status whose token
is accepted reports that. -/
theorem create_reports_iff_blank :
    let r : Reviewer Task :=
      { authenticator := some fun _ => return { verdict := .ok (some { user := .named "alice" }) } }
    let review : TokenReview := { spec := { token := "abc" } }
    let w : World := ⟨.epoch, { capacity := 1 }, { capacity := 1 }, []⟩
    ∃ review' w', (r.create none review).run w = (some (.ok review'), w') ∧
      Reports review'.status (r.Accepts review w) (r.Errs review w) := by
  intro r review w
  have said : r.verdict review = .done (.ok (some { user := .named "alice" })) :=
    verdict_of_constant _ rfl rfl
  have ran : (r.create none review).run w =
      (some (.ok (accept review { user := .named "alice" })), w) := by
    change (r.authenticate review).run w = _
    unfold authenticate
    rw [said]
    rfl
  obtain ⟨w₀, -, same, iff⟩ := create_reports_iff ran
  obtain rfl := same rfl
  exact ⟨_, _, ran, iff.2 ⟨fun _ => rfl, fun _ => ⟨rfl, rfl, rfl⟩⟩⟩

/-- A review that is sent as authenticated stays so when authentication ends in an error. -/
theorem create_keeps_authenticated :
    let r : Reviewer Task :=
      { authenticator := some fun _ => return { verdict := .error .tokenExpired } }
    let review : TokenReview := { spec := { token := "abc" }, status := { authenticated := true } }
    let w : World := ⟨.epoch, { capacity := 1 }, { capacity := 1 }, []⟩
    ∃ review' w', (r.create none review).run w = (some (.ok review'), w') ∧
      review'.status.authenticated = true ∧ ¬r.Accepts review w ∧
      ¬Reports review'.status (r.Accepts review w) (r.Errs review w) := by
  intro r review w
  have said : r.verdict review = .done (.error .tokenExpired) := verdict_of_constant _ rfl rfl
  obtain ⟨w', ran⟩ : ∃ w', (r.create none review).run w = (some (.ok { review with
      status := { authenticated := true, error := some "token expired" } }), w') := by
    change ∃ w', (r.authenticate review).run w = _
    unfold authenticate
    rw [said]
    exact ⟨_, rfl⟩
  have rejected : ¬r.Accepts review w := by
    rintro ⟨answer, ⟨_, _, _, ⟨⟩, -, ⟨⟩⟩, -, accepted, ⟨⟩⟩
  exact ⟨_, _, ran, rfl, rejected, fun reports => rejected (reports.authenticated.1 rfl)⟩

end Reviewer

end TokenAuthority
