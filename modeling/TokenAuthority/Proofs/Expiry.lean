/-
# Tokens that are over

A token that is expired or timed out stays so, however often and with whatever tokens the server is
used later on. Nothing that a use notes could bring it back: a use is noted only after all checks
have passed, and only in the inactivity timeout of the object under the same name
(`find?_run_accessTokens`). So an authentication that ends with `tokenExpired` or `tokenTimedOut` is
followed by such ones only, and a token is expired from the end of its span on, whatever was noted
before (`Course.accessTokens_over`).
-/

import TokenAuthority.Proofs.TokenChecks

namespace TokenAuthority

open Resource (AccessToken)
open Time (Instant)

namespace Time.Instant

/-- Instants are in order. -/
theorem notAfter_trans {a b c : Instant} (ab : a.notAfter b = true) (bc : b.notAfter c = true) :
    a.notAfter c = true := by
  simp only [notAfter, Bool.or_eq_true, Bool.and_eq_true, decide_eq_true_eq] at *
  omega

/-- An instant has the second that it was made of. -/
theorem second_of_of? {second : Int} {nano : Nat} {i : Instant} (h : of? second nano = some i) :
    i.second = second := by
  unfold of? at h
  split at h
  · rw [← Option.some.inj h]
  · simp at h

/-- A later instant is not before. -/
theorem not_notAfter_of_after? {a b : Instant} {seconds : Int} (positive : 0 < seconds)
    (h : a.after? seconds = some b) : b.notAfter a = false := by
  have second := second_of_of? h
  simp only [notAfter, Bool.or_eq_false_iff, Bool.and_eq_false_iff, decide_eq_false_iff_not]
  omega

end Time.Instant

namespace Resource.AccessToken

variable {start now later : Instant} {seconds : Int}

/-- A span that is over stays over. -/
theorem spanIsOver?_of_notAfter (ended : spanIsOver? start seconds now = some true)
    (notBefore : now.notAfter later = true) : spanIsOver? start seconds later = some true := by
  unfold spanIsOver? at *
  split
  · rename_i positive
    rw [if_pos positive] at ended
    obtain ⟨e, spanEnd, reached⟩ := Option.map_eq_some_iff.1 ended
    rw [spanEnd, Option.map_some, Instant.notAfter_trans reached notBefore]
  · rename_i off
    rw [if_neg off] at ended
    simp at ended

/-- Whether it is known if a span is over does not depend on the time. -/
theorem isSome_spanIsOver? (known : (spanIsOver? start seconds now).isSome = true)
    (later : Instant) : (spanIsOver? start seconds later).isSome = true := by
  unfold spanIsOver? at *
  split <;> simp_all

/-- A span is not over when it begins. -/
theorem spanIsOver?_start_ne : spanIsOver? now seconds now ≠ some true := by
  unfold spanIsOver?
  split
  · rename_i positive
    intro ended
    obtain ⟨e, spanEnd, reached⟩ := Option.map_eq_some_iff.1 ended
    unfold spanEnd? at spanEnd
    split at spanEnd
    · rw [Instant.not_notAfter_of_after? positive spanEnd] at reached
      exact Bool.false_ne_true reached
    · simp at spanEnd
  · simp

/-- The token is expired at a time, or it is not and has timed out. -/
def IsOver (t : AccessToken) (now : Instant) : Prop :=
  t.isExpired? now = some true ∨ t.isExpired? now = some false ∧ t.isTimedOut? now = some true

/-- Only a token that carries a time of creation is ever over. -/
theorem IsOver.exists_created {t : AccessToken} (h : t.IsOver now) :
    ∃ c, t.metadata.created = some c := by
  cases created : t.metadata.created with
  | some c => exact ⟨c, rfl⟩
  | none =>
    rcases h with expired | ⟨-, timedOut⟩
    · rw [isExpired?, AccessToken.created, created] at expired
      exact absurd expired spanIsOver?_start_ne
    · rw [isTimedOut?, AccessToken.created, created] at timedOut
      exact absurd timedOut spanIsOver?_start_ne

/-- **A token that is over stays over.** -/
theorem IsOver.mono {t : AccessToken} (h : t.IsOver now) (notBefore : now.notAfter later = true) :
    t.IsOver later := by
  obtain ⟨c, created⟩ := h.exists_created
  have fixed (i : Instant) : t.created i = c := by rw [AccessToken.created, created]; rfl
  unfold IsOver isExpired? isTimedOut? at *
  rw [fixed] at *
  rcases h with expired | ⟨notExpired, timedOut⟩
  · exact .inl (spanIsOver?_of_notAfter expired notBefore)
  · have timedOut := spanIsOver?_of_notAfter timedOut notBefore
    -- the token may have expired since, but not become one whose span cannot be added up
    have known := isSome_spanIsOver? (by rw [notExpired]; rfl) later
    obtain ⟨expired, known⟩ := Option.isSome_iff_exists.1 known
    rw [known, timedOut]
    cases expired <;> simp

end Resource.AccessToken

namespace TokenAuthenticator

/-- Authenticating any token does nothing to a stored one, unless all checks pass and a use of that
one is noted. -/
theorem find?_run_accessTokens (timeout : Option UInt64) (token : String)
    (audiences : Option Audiences) (w : World) (name : String) :
    let w' := ((accessTokens timeout token audiences : Task Verdict).run w).2
    w'.accessTokens.find? name = w.accessTokens.find? name ∨
      ∃ stored seconds, w.accessTokens.find? name = some stored ∧ ¬stored.IsOver w.clock ∧
        w'.accessTokens.find? name = some (stored.used w.clock seconds) := by
  intro w'
  have ran : w' = ((accessTokens timeout token audiences : Task Verdict).run w).2 := rfl
  rw [run_accessTokens] at ran
  split at ran
  · exact .inl (by rw [ran])
  · rename_i stored found
    split at ran
    · exact .inl (by rw [ran])
    · exact .inl (by rw [ran])
    · rename_i notExpired
      split at ran
      · exact .inl (by rw [ran])
      · exact .inl (by rw [ran])
      · rename_i notTimedOut
        have named := Store.name_of_find? found
        rw [run_checkUser (named.symm ▸ found)] at ran
        split at ran
        · exact .inl (by rw [ran])
        · split at ran
          · exact .inl (by rw [ran])
          · cases timeout with
            | none => exact .inl (by rw [ran]; rfl)
            | some timeout =>
              -- only here is a use noted, and only under the name that was looked up
              have put : w'.accessTokens.find? name =
                  if name = TokenName.ofToken token then some (stored.used w.clock timeout)
                  else w.accessTokens.find? name := by
                rw [ran, ← named]
                exact Store.find?_put ..
              split at put
              · rename_i same
                subst same
                refine .inr ⟨stored, timeout, found, ?_, put⟩
                simp [AccessToken.IsOver, notExpired, notTimedOut]
              · exact .inl put

/-- The token is over, and nothing else is said. -/
def SaysOver (outcome : Option Verdict) : Prop :=
  outcome = some (.error .tokenExpired) ∨ outcome = some (.error .tokenTimedOut)

/-- The check of the user does not say that a token is over. -/
theorem not_saysOver_checkUser {token old : AccessToken} {w : World}
    (stored : w.accessTokens.find? (Stored.name token) = some old) (timeout : Option UInt64) :
    ¬SaysOver ((checkUser token timeout : Task Verdict).run w).1 := by
  rw [run_checkUser stored]
  split
  · simp [SaysOver]
  · split <;> simp [SaysOver]

/-- Exactly a token whose object is over is said to be. -/
theorem saysOver_iff {timeout : Option UInt64} {token : String} {audiences : Option Audiences}
    {w : World} :
    SaysOver ((accessTokens timeout token audiences : Task Verdict).run w).1 ↔
      ∃ stored, w.accessTokens.find? (TokenName.ofToken token) = some stored ∧
        stored.IsOver w.clock := by
  rw [run_accessTokens]
  cases found : w.accessTokens.find? (TokenName.ofToken token) with
  | none => simp [SaysOver]
  | some stored =>
    have user := not_saysOver_checkUser ((Store.name_of_find? found).symm ▸ found) timeout
    rcases expired : stored.isExpired? w.clock with _ | _ | _
    · simp [SaysOver, AccessToken.IsOver, expired]
    · rcases timedOut : stored.isTimedOut? w.clock with _ | _ | _
      · simp [SaysOver, AccessToken.IsOver, expired, timedOut]
      · simp [user, AccessToken.IsOver, expired, timedOut]
      · simp [SaysOver, AccessToken.IsOver, expired, timedOut]
    · simp [SaysOver, AccessToken.IsOver, expired]

end TokenAuthenticator

open TokenAuthenticator

/-- What may happen to a server as time passes: any tokens are authenticated, and other things are
done that leave the object of one name alone. -/
inductive Course (name : String) (w : World) : World → Prop where
  | start : Course name w w
  | authenticate {w' : World} (course : Course name w w') (clock : Instant)
      (notBefore : w'.clock.notAfter clock = true) (timeout : Option UInt64) (token : String)
      (audiences : Option Audiences) :
      Course name w
        ((accessTokens timeout token audiences : Task Verdict).run { w' with clock }).2
  | other {w' w'' : World} (course : Course name w w')
      (notBefore : w'.clock.notAfter w''.clock = true)
      (kept : w''.accessTokens.find? name = w'.accessTokens.find? name) : Course name w w''

namespace Course

variable {name : String} {w w' : World} {stored : AccessToken}

/-- Through a course the object of the name is over once it is. -/
theorem isOver (course : Course name w w') (found : w.accessTokens.find? name = some stored)
    (ended : stored.IsOver w.clock) :
    w'.accessTokens.find? name = some stored ∧ stored.IsOver w'.clock := by
  induction course with
  | start => exact ⟨found, ended⟩
  | @authenticate w' course clock notBefore timeout token audiences ih =>
    obtain ⟨found, ended⟩ := ih
    have ended := ended.mono notBefore
    obtain same | ⟨stored', seconds, found', notOver, -⟩ :=
      find?_run_accessTokens timeout token audiences { w' with clock } name
    · rw [Task.clock_run]
      exact ⟨same.trans found, ended⟩
    · obtain rfl : stored = stored' := Option.some.inj (found.symm.trans found')
      exact absurd ended notOver
  | other course notBefore kept ih =>
    obtain ⟨found, ended⟩ := ih
    exact ⟨kept.trans found, ended.mono notBefore⟩

/-- Through a course the object of the name keeps the time of its creation and its span. -/
theorem exists_sameSpan (course : Course name w w')
    (found : w.accessTokens.find? name = some stored) :
    ∃ stored', w'.accessTokens.find? name = some stored' ∧
      stored'.metadata = stored.metadata ∧ stored'.expiresIn = stored.expiresIn := by
  induction course with
  | start => exact ⟨stored, found, rfl, rfl⟩
  | @authenticate w' course clock notBefore timeout token audiences ih =>
    obtain ⟨stored', found, metadata, span⟩ := ih
    obtain same | ⟨used, seconds, found', -, noted⟩ :=
      find?_run_accessTokens timeout token audiences { w' with clock } name
    · exact ⟨stored', same.trans found, metadata, span⟩
    · obtain rfl : stored' = used := Option.some.inj (found.symm.trans found')
      exact ⟨_, noted, metadata, span⟩
  | other course notBefore kept ih =>
    obtain ⟨stored', found, same⟩ := ih
    exact ⟨stored', kept.trans found, same⟩

/-- **A token that is over is never accepted again.** Let anything happen, as time passes, but
changes to the object of a token other than by its use. Once authenticating the token has said that
it is expired or timed out, nothing else is said any more; and from the end of the span of its
object on it is said to be expired. -/
theorem accessTokens_over (token : String) :
    (∀ timeout audiences w w',
      let authentication := (accessTokens timeout token audiences : Task Verdict).run w
      SaysOver authentication.1 → Course (TokenName.ofToken token) authentication.2 w' →
      ∀ timeout' audiences',
        SaysOver ((accessTokens timeout' token audiences' : Task Verdict).run w').1) ∧
    ∀ stored created spanEnd w w',
      w.accessTokens.find? (TokenName.ofToken token) = some stored →
      stored.metadata.created = some created → 0 < stored.expiresIn.toInt →
      AccessToken.spanEnd? created stored.expiresIn.toInt = some spanEnd →
      Course (TokenName.ofToken token) w w' → spanEnd.notAfter w'.clock = true →
      ∀ timeout audiences, ((accessTokens timeout token audiences : Task Verdict).run w').1 =
        some (.error .tokenExpired) := by
  constructor
  · intro timeout audiences w w' authentication said course timeout' audiences'
    obtain ⟨stored, found, ended⟩ := saysOver_iff.1 said
    have found' : authentication.2.accessTokens.find? (TokenName.ofToken token) = some stored := by
      obtain same | ⟨used, seconds, found', notOver, -⟩ :=
        find?_run_accessTokens timeout token audiences w (TokenName.ofToken token)
      · exact same.trans found
      · obtain rfl : stored = used := Option.some.inj (found.symm.trans found')
        exact absurd ended notOver
    have ended' : stored.IsOver authentication.2.clock := by rwa [Task.clock_run]
    exact saysOver_iff.2 ⟨stored, course.isOver found' ended'⟩
  · intro stored created spanEnd w w' found isCreated positive ends course reached timeout audiences
    obtain ⟨stored', found', metadata, span⟩ := course.exists_sameSpan found
    have start : stored'.created w'.clock = created := by
      rw [AccessToken.created, metadata, isCreated]
      rfl
    have expired : stored'.isExpired? w'.clock = some true := by
      unfold AccessToken.isExpired? AccessToken.spanIsOver?
      rw [start, span, if_pos positive, ends, Option.map_some, reached]
    rw [run_accessTokens, found']
    dsimp only
    rw [expired]

/-- The hypotheses of `accessTokens_over` are satisfiable: a token for a minute is used after half
of it, is expired after all of it, and stays so. -/
theorem accessTokens_over_minute :
    let stored : AccessToken := {
      metadata := { name := "tok", created := some .epoch }, expiresIn := 60, userName := "alice" }
    let alice : Resource.User := { metadata := { name := "alice" } }
    let half : World := ⟨⟨30, 0, rfl⟩, Store.put { capacity := 9 } stored,
      Store.put { capacity := 9 } alice, []⟩
    let authenticate (w : World) := (accessTokens (some 5) "tok" none : Task Verdict).run w
    let ended : World := { (authenticate half).2 with clock := ⟨60, 0, rfl⟩ }
    let later : World := { (authenticate ended).2 with clock := ⟨61, 0, rfl⟩ }
    (authenticate half).1 = some (.ok (some { user := .named "alice" })) ∧
      (authenticate ended).1 = some (.error .tokenExpired) ∧ SaysOver (authenticate later).1 := by
  intro stored alice half authenticate ended later
  obtain ⟨stays, expires⟩ := accessTokens_over "tok"
  have expired : (authenticate ended).1 = some (.error .tokenExpired) :=
    expires stored .epoch ⟨60, 0, rfl⟩ { half with clock := .epoch } ended rfl rfl (by decide) rfl
      (.other (.authenticate .start ⟨30, 0, rfl⟩ rfl (some 5) "tok" none) rfl rfl) rfl (some 5) none
  refine ⟨rfl, expired, stays (some 5) none ended later (.inl expired) ?_ (some 5) none⟩
  exact .other .start (by rw [Task.clock_run]; rfl) rfl

end Course

end TokenAuthority
