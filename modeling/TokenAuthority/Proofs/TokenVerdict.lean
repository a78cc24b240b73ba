/-
# The verdict on a stored token

What the authenticator of stored tokens says is decided by the first check that fails (`Judged`).
The rules do not ask the program when a token ends: they look at what is stored and at the clock. A
token counts from the creation that its metadata tells, or from now if they tell none, and its spans
and its age are sums and differences of seconds (`Instant.HasEnded`, `Instant.wholeSeconds`).

| verdict | when |
| --- | --- |
| nothing to say | no token is stored under the name |
| `tokenExpired` | its lifetime has ended |
| `tokenTimedOut` | its inactivity timeout has ended |
| `userNotFound` | its user is not stored |
| `userUidMismatch` | the user has another identifier |
| acceptance | otherwise |

The program and the rules agree, and the stores are left as they are but for the note of a use
(`TokenAuthenticator.accessTokens_judged`).
-/

import TokenAuthority.Proofs.Alone
import TokenAuthority.Proofs.Window

namespace TokenAuthority

open Resource (AccessToken User)
open Time (Instant lastSecond nanosPerSecond)

/-! ### Spans and ages -/

namespace Time.Instant

/-- A positive number of seconds has passed since an instant: the second that many later is over, or
it is the current one and as far on as that of the start was. A leap second counts as the second
that it follows. -/
def HasEnded (start : Instant) (seconds : Int) (now : Instant) : Prop :=
  0 < seconds ∧ (start.second + seconds < now.second ∨
    start.second + seconds = now.second ∧ start.nano % nanosPerSecond ≤ now.nano)

instance (start : Instant) (seconds : Int) (now : Instant) :
    Decidable (start.HasEnded seconds now) :=
  inferInstanceAs (Decidable (_ ∧ _))

/-- Where an instant is put in nanoseconds to be told from another one. An instant in a leap second
is put into the second that it follows if the other one is at a later time of the day, and into the
next second otherwise. -/
def against (i other : Instant) : Int :=
  i.second * nanosPerSecond + i.nano -
    (if nanosPerSecond ≤ i.nano ∧ i.second % 86400 < other.second % 86400 then
      (nanosPerSecond : Int) else 0)

/-- The whole seconds from an instant to another, rounded toward zero. -/
def wholeSeconds (start now : Instant) : Int :=
  (now.against start - start.against now).tdiv nanosPerSecond

/-- The distance of two instants, with the leap second that the program counts between them. -/
theorem against_sub_against (now start : Instant) :
    now.against start - start.against now =
      (now.second - start.second + now.leapBetween start) * nanosPerSecond +
        ((now.nano : Int) - start.nano) := by
  unfold against leapBetween secondOfDay
  simp only [Bool.and_eq_true, decide_eq_true_eq]
  unfold nanosPerSecond
  omega

/-- The program comes to the same number, by seconds and nanoseconds one after the other. -/
theorem secondsSince_eq_wholeSeconds (now start : Instant) :
    now.secondsSince start = start.wholeSeconds now := by
  unfold wholeSeconds secondsSince
  -- to round toward zero is to round down, and up again by one for a negative broken number
  rw [against_sub_against, Int.tdiv_eq_ediv]
  simp only [Bool.and_eq_true, decide_eq_true_eq]
  unfold nanosPerSecond
  generalize now.second - start.second + now.leapBetween start = seconds
  generalize (now.nano : Int) - start.nano = nanos
  rw [Int.sign_eq_one_of_pos (by decide)]
  omega

end Time.Instant

namespace Resource.AccessToken

variable {t : AccessToken} {start now : Instant} {seconds : Int}

/-- Where the end of a span is in the calendar, the program finds out whether it has come. -/
theorem spanIsOver?_eq_true_iff_hasEnded (known : spanIsOver? start seconds now ≠ none) :
    spanIsOver? start seconds now = some true ↔ start.HasEnded seconds now := by
  unfold spanIsOver? Instant.HasEnded at *
  split
  · rename_i positive
    rw [if_pos positive] at known
    cases ends : spanEnd? start seconds with
    | none => simp [ends] at known
    | some spanEnd =>
      obtain ⟨plain, nanos⟩ := of_spanEnd? ends
      rw [Option.map_some, Option.some_inj, and_iff_right positive]
      simp only [Instant.notAfter, Instant.nanos, Instant.IsPlain, nanosPerSecond,
        Bool.or_eq_true, Bool.and_eq_true, decide_eq_true_eq] at *
      omega
  · rename_i off
    simp [off]

/-- The lifetime of a token has ended. -/
def Expired (t : AccessToken) (now : Instant) : Prop :=
  (t.metadata.created.getD now).HasEnded t.expiresIn.toInt now

/-- The inactivity timeout of a token has ended. -/
def TimedOut (t : AccessToken) (now : Instant) : Prop :=
  (t.metadata.created.getD now).HasEnded t.inactivityTimeout.toInt now

instance (t : AccessToken) (now : Instant) : Decidable (t.Expired now) :=
  inferInstanceAs (Decidable (Instant.HasEnded _ _ _))

instance (t : AccessToken) (now : Instant) : Decidable (t.TimedOut now) :=
  inferInstanceAs (Decidable (Instant.HasEnded _ _ _))

/-- The spans of a token that are looked at end within the calendar. Once the lifetime has ended,
nobody looks at the inactivity timeout. -/
structure InCalendar (t : AccessToken) (now : Instant) : Prop where
  lifetime : 0 < t.expiresIn.toInt →
    (t.metadata.created.getD now).second + t.expiresIn.toInt ≤ lastSecond
  timeout : ¬t.Expired now → 0 < t.inactivityTimeout.toInt →
    (t.metadata.created.getD now).second + t.inactivityTimeout.toInt ≤ lastSecond

/-- The program finds out whether a token is expired as the rules say. -/
theorem isExpired?_eq_true_iff (known : t.isExpired? now ≠ none) :
    t.isExpired? now = some true ↔ t.Expired now :=
  spanIsOver?_eq_true_iff_hasEnded known

/-- The program finds out whether a token is timed out as the rules say. -/
theorem isTimedOut?_eq_true_iff (known : t.isTimedOut? now ≠ none) :
    t.isTimedOut? now = some true ↔ t.TimedOut now :=
  spanIsOver?_eq_true_iff_hasEnded known

/-- The sums that the program makes are those of spans within the calendar. -/
theorem InCalendar.inForce? (within : t.InCalendar now) : t.inForce? now ≠ none := by
  rw [Ne, inForce?_eq_none_iff]
  rintro (⟨positive, late⟩ | ⟨lasts, positive, late⟩)
  · exact absurd (within.lifetime positive) (Int.not_le.2 late)
  · refine absurd (within.timeout (fun expired => ?_) positive) (Int.not_le.2 late)
    rw [← isExpired?_eq_true_iff (by simp [lasts]), lasts] at expired
    cases expired

/-- The program says of a token that it is expired, or else timed out, or else in force. -/
theorem InCalendar.inForce?_eq (within : t.InCalendar now) :
    t.inForce? now = some (if t.Expired now then .error .tokenExpired
      else if t.TimedOut now then .error .tokenTimedOut else .ok ()) := by
  have known := within.inForce?
  unfold AccessToken.inForce? at *
  rcases expiry : t.isExpired? now with _ | _ | _
  · simp [expiry] at known
  · have lasts : ¬t.Expired now := by
      rw [← isExpired?_eq_true_iff (by simp [expiry])]
      simp [expiry]
    rw [if_neg lasts]
    rcases inactivity : t.isTimedOut? now with _ | _ | _
    · simp [expiry, inactivity] at known
    · have active : ¬t.TimedOut now := by
        rw [← isTimedOut?_eq_true_iff (by simp [inactivity])]
        simp [inactivity]
      rw [if_neg active]
    · rw [if_pos ((isTimedOut?_eq_true_iff (by simp [inactivity])).1 inactivity)]
  · rw [if_pos ((isExpired?_eq_true_iff (by simp [expiry])).1 expiry)]

end Resource.AccessToken

/-! ### The rules -/

/-- The verdict on the token that is stored under a name. -/
inductive Judged (w : World) (name : String) : Verdict → Prop where
  | unknown (missing : w.accessTokens.find? name = none) : Judged w name (.ok none)
  | expired {stored : AccessToken} (found : w.accessTokens.find? name = some stored)
      (expired : stored.Expired w.clock) : Judged w name (.error .tokenExpired)
  | timedOut {stored : AccessToken} (found : w.accessTokens.find? name = some stored)
      (lasts : ¬stored.Expired w.clock) (timedOut : stored.TimedOut w.clock) :
      Judged w name (.error .tokenTimedOut)
  | userNotFound {stored : AccessToken} (found : w.accessTokens.find? name = some stored)
      (lasts : ¬stored.Expired w.clock) (active : ¬stored.TimedOut w.clock)
      (missing : w.users.find? stored.userName = none) :
      Judged w name (.error (.userNotFound stored.userName))
  | userUidMismatch {stored : AccessToken} {user : User}
      (found : w.accessTokens.find? name = some stored) (lasts : ¬stored.Expired w.clock)
      (active : ¬stored.TimedOut w.clock) (known : w.users.find? stored.userName = some user)
      (differs : user.metadata.uid.getD "" ≠ stored.userUid) :
      Judged w name (.error (.userUidMismatch (user.metadata.uid.getD "") stored.userUid))
  | accepted {stored : AccessToken} {user : User} {extra : KeyedMap (List String)}
      (found : w.accessTokens.find? name = some stored) (lasts : ¬stored.Expired w.clock)
      (active : ¬stored.TimedOut w.clock) (known : w.users.find? stored.userName = some user)
      (same : user.metadata.uid.getD "" = stored.userUid)
      (scopes : extra.entries = if stored.scopes = [] then []
        else [("scopes.authorization.openshift.io", stored.scopes)]) :
      Judged w name (.ok (some {
        user := {
          name := user.metadata.name
          uid := user.metadata.uid.getD ""
          groups := user.groups
          extra := extra }
        audiences := [] }))

/-- What an acceptance tells of the scopes of a token. -/
theorem Resource.AccessToken.entries_extra_identity (stored : AccessToken) (user : User) :
    (stored.identity user).extra.entries = if stored.scopes = [] then []
      else [("scopes.authorization.openshift.io", stored.scopes)] := by
  unfold AccessToken.identity
  cases stored.scopes <;> rfl

namespace TokenAuthenticator

variable {w : World} {name token : String} {verdict : Verdict} {timeout : Option UInt64}
  {audiences : Option Audiences}

/-- The calls of the authenticator, with the checks of the spans as one. -/
theorem run_accessTokens_of_found {stored : AccessToken} {spans : Except AuthenticationError Unit}
    (found : w.accessTokens.find? (TokenName.ofToken token) = some stored)
    (inForce : stored.inForce? w.clock = some spans) :
    (accessTokens timeout token audiences : Task Verdict).run w =
      match spans with
      | .error e => (some (.error e), w)
      | .ok () => (checkUser stored timeout : Task Verdict).run w := by
  rw [run_accessTokens, found]
  dsimp only
  unfold AccessToken.inForce? at inForce
  rcases expiry : stored.isExpired? w.clock with _ | _ | _ <;> simp only [expiry] at inForce
  · cases inForce
  · rcases inactivity : stored.isTimedOut? w.clock with _ | _ | _ <;>
      simp only [inactivity] at inForce
    · cases inForce
    · cases inForce
      rfl
    · cases inForce
      rfl
  · cases inForce
    rfl

/-- Past the checks of the spans it is the user that decides. -/
theorem run_accessTokens_of_active {stored : AccessToken}
    (found : w.accessTokens.find? (TokenName.ofToken token) = some stored)
    (within : stored.InCalendar w.clock) (lasts : ¬stored.Expired w.clock)
    (active : ¬stored.TimedOut w.clock) :
    (accessTokens timeout token audiences : Task Verdict).run w =
      (checkUser stored timeout : Task Verdict).run w  := by
  have spans := within.inForce?_eq
  rw [if_neg lasts, if_neg active] at spans
  exact run_accessTokens_of_found found spans

/-- There is a verdict by the rules. -/
theorem exists_judged (w : World) (name : String) : ∃ verdict, Judged w name verdict := by
  cases found : w.accessTokens.find? name with
  | none => exact ⟨_, .unknown found⟩
  | some stored =>
    by_cases expired : stored.Expired w.clock
    · exact ⟨_, .expired found expired⟩
    · by_cases timedOut : stored.TimedOut w.clock
      · exact ⟨_, .timedOut found expired timedOut⟩
      · cases known : w.users.find? stored.userName with
        | none => exact ⟨_, .userNotFound found expired timedOut known⟩
        | some user =>
          by_cases same : user.metadata.uid.getD "" = stored.userUid
          · have scopes := stored.entries_extra_identity user
            exact ⟨_, .accepted found expired timedOut known same scopes⟩
          · exact ⟨_, .userUidMismatch found expired timedOut known same⟩

/-- The authenticator comes to the verdict by the rules. -/
theorem exists_run_of_judged (timeout : Option UInt64) (audiences : Option Audiences)
    (sums : ∀ stored, w.accessTokens.find? (TokenName.ofToken token) = some stored →
      stored.InCalendar w.clock)
    (judged : Judged w (TokenName.ofToken token) verdict) :
    ∃ w', (accessTokens timeout token audiences : Task Verdict).run w = (some verdict, w') ∧
      ((¬verdict.Accepts ∧ w.SameStores w') ∨
        verdict.Accepts ∧ ∃ stored,
          w.accessTokens.find? (TokenName.ofToken token) = some stored ∧
            w' = w.afterUse stored timeout) := by
  cases judged with
  | unknown missing =>
    refine ⟨w, ?_, .inl ⟨by rintro ⟨_, ⟨⟩⟩, .refl w⟩⟩
    rw [run_accessTokens, missing]
  | expired found expired =>
    refine ⟨w, ?_, .inl ⟨by rintro ⟨_, ⟨⟩⟩, .refl w⟩⟩
    have spans := (sums _ found).inForce?_eq
    rw [if_pos expired] at spans
    rw [run_accessTokens_of_found found spans]
  | timedOut found lasts timedOut =>
    refine ⟨w, ?_, .inl ⟨by rintro ⟨_, ⟨⟩⟩, .refl w⟩⟩
    have spans := (sums _ found).inForce?_eq
    rw [if_neg lasts, if_pos timedOut] at spans
    rw [run_accessTokens_of_found found spans]
  | userNotFound found lasts active missing =>
    refine ⟨w, ?_, .inl ⟨by rintro ⟨_, ⟨⟩⟩, .refl w⟩⟩
    rw [run_accessTokens_of_active found (sums _ found) lasts active,
      run_checkUser ((Store.name_of_find? found).symm ▸ found), missing]
  | userUidMismatch found lasts active known differs =>
    rename_i stored user
    have warned : w.SameStores (w.perform (.record (.message .warning
        ("Access token for " ++ stored.userName ++ " carries a stale user UID")))).2 :=
      w.sameStores_perform rfl
    refine ⟨_, ?_, .inl ⟨by rintro ⟨_, ⟨⟩⟩, warned⟩⟩
    rw [run_accessTokens_of_active found (sums _ found) lasts active,
      run_checkUser ((Store.name_of_find? found).symm ▸ found), known]
    exact if_pos differs
  | accepted found lasts active known same scopes =>
    rename_i stored user extra
    refine ⟨w.afterUse stored timeout, ?_, .inr ⟨⟨_, rfl⟩, stored, found, rfl⟩⟩
    have isExtra : extra = (stored.identity user).extra :=
      KeyedMap.ext (scopes.trans (stored.entries_extra_identity user).symm)
    rw [run_accessTokens_of_active found (sums _ found) lasts active,
      run_checkUser ((Store.name_of_find? found).symm ▸ found), known, isExtra]
    exact if_neg (not_not.2 same)

/-- **The authenticator of stored tokens decides by the rules, and changes nothing else.** Let the
spans that it looks at end within the calendar. Then it comes to a verdict, which is the one that
the rules give, and no other: there is nothing to say exactly if the token is not stored. The users
are left as they are, and so are the tokens unless there is an inactivity timeout and the token is
accepted. Then only the token itself is changed, and of it only the inactivity timeout, which is the
whole seconds since its creation and the timeout together, up to the largest number that it can be.
-/
theorem accessTokens_judged (w : World) (token : String) (timeout : Option UInt64)
    (audiences : Option Audiences)
    (sums : ∀ stored, w.accessTokens.find? (TokenName.ofToken token) = some stored →
      stored.InCalendar w.clock) :
    let name := TokenName.ofToken token
    ∃ verdict w', (accessTokens timeout token audiences : Task Verdict).run w =
        (some verdict, w') ∧
      (∀ verdict', Judged w name verdict' ↔ verdict' = verdict) ∧
      (verdict = .ok none ↔ w.accessTokens.find? name = none) ∧
      w'.users = w.users ∧
      (timeout = none ∨ ¬verdict.Accepts → w'.accessTokens = w.accessTokens) ∧
      ∀ seconds, timeout = some seconds → verdict.Accepts → ∃ stored span,
        w.accessTokens.find? name = some stored ∧
        span.toInt = min (max ((stored.metadata.created.getD w.clock).wholeSeconds w.clock) 0 +
          seconds.toNat) 2147483647 ∧
        ∀ other, w'.accessTokens.find? other =
          if other = name then some { stored with inactivityTimeout := span }
          else w.accessTokens.find? other := by
  intro name
  obtain ⟨verdict, judged⟩ := exists_judged w name
  obtain ⟨w', ran, left⟩ := exists_run_of_judged timeout audiences sums judged
  have unique (verdict' : Verdict) : Judged w name verdict' ↔ verdict' = verdict := by
    refine ⟨fun judged' => ?_, fun same => same ▸ judged⟩
    obtain ⟨w'', ran', -⟩ := exists_run_of_judged timeout audiences sums judged'
    exact Option.some.inj (congrArg Prod.fst (ran'.symm.trans ran))
  refine ⟨verdict, w', ran, unique, ?_, ?_, ?_, ?_⟩
  · refine ⟨?_, fun missing => ((unique (.ok none)).1 (.unknown missing)).symm⟩
    rintro rfl
    cases judged
    assumption
  · obtain ⟨-, same⟩ | ⟨-, stored, -, rfl⟩ := left
    · exact same .users
    · cases timeout <;> rfl
  · intro unnoted
    obtain ⟨-, same⟩ | ⟨accepts, stored, -, rfl⟩ := left
    · exact same .accessTokens
    · obtain rfl | rejects := unnoted
      · rfl
      · exact absurd accepts rejects
  · rintro seconds rfl accepts
    obtain ⟨rejects, -⟩ | ⟨-, stored, found, rfl⟩ := left
    · exact absurd accepts rejects
    · refine ⟨stored, (stored.used w.clock seconds).inactivityTimeout, found, ?_, fun other => ?_⟩
      · rw [AccessToken.toInt_inactivityTimeout_used, Int.toNat_eq_max, AccessToken.age,
          Instant.secondsSince_eq_wholeSeconds]
        rfl
      · rw [World.find?_afterUse, Store.name_of_find? found]
        rfl

/-- A token of `alice` that was created at the epoch, lasts for an hour, and must be used within two
minutes. -/
def hourly : AccessToken where
  metadata := { name := "tok", created := some .epoch }
  userName := "alice"
  expiresIn := 3600
  inactivityTimeout := 120

/-- The token of `alice` is stored, and it is some time after its creation. -/
def aliceLater (clock : Instant) : World :=
  { World.aliceHolds with clock, accessTokens := Store.put { capacity := 9 } hourly }

/-- The token of `alice` is found under its name. -/
theorem find?_aliceLater (clock : Instant) :
    (aliceLater clock).accessTokens.find? (TokenName.ofToken "tok") = some hourly := by
  have found : (Store.put { capacity := 9 } hourly).find? (TokenName.ofToken "tok") =
      some hourly := by decide +kernel
  exact found

/-- The spans of the token of `alice` end within the calendar. -/
theorem inCalendar_aliceLater (clock : Instant) (stored : AccessToken)
    (found : (aliceLater clock).accessTokens.find? (TokenName.ofToken "tok") = some stored) :
    stored.InCalendar (aliceLater clock).clock := by
  obtain rfl : hourly = stored := Option.some.inj ((find?_aliceLater clock).symm.trans found)
  exact ⟨fun _ => (by decide : (0 : Int) + 3600 ≤ lastSecond),
    fun _ _ => (by decide : (0 : Int) + 120 ≤ lastSecond)⟩

/-- The hypothesis of `accessTokens_judged` is satisfiable: the token of `alice` is used after a
hundred seconds, with a timeout of five minutes from then on, and it is expired after an hour. -/
theorem accessTokens_judged_alice :
    (∃ verdict w', (accessTokens (some 300) "tok" none : Task Verdict).run
        (aliceLater ⟨100, 500000000, rfl⟩) = (some verdict, w') ∧
      verdict.Accepts ∧ ∃ stored, w'.accessTokens.find? (TokenName.ofToken "tok") = some stored ∧
        stored.inactivityTimeout.toInt = 400) ∧
    ∃ w', (accessTokens (some 300) "tok" none : Task Verdict).run (aliceLater ⟨3600, 0, rfl⟩) =
      (some (.error .tokenExpired), w') := by
  refine ⟨?_, ?_⟩
  · obtain ⟨verdict, w', ran, judged, -, -, -, noted⟩ :=
      accessTokens_judged (aliceLater ⟨100, 500000000, rfl⟩) "tok" (some 300) none
        (inCalendar_aliceLater _)
    have known : (aliceLater ⟨100, 500000000, rfl⟩).users.find? hourly.userName =
        some { metadata := { name := "alice" } } := by decide +kernel
    have isAccepted : Judged (aliceLater ⟨100, 500000000, rfl⟩) (TokenName.ofToken "tok")
        (.ok (some { user := { name := "alice" } })) :=
      .accepted (find?_aliceLater _) (by decide) (by decide) known rfl rfl
    obtain rfl := (judged _).1 isAccepted
    obtain ⟨stored, span, found, isSpan, after⟩ := noted 300 rfl ⟨_, rfl⟩
    obtain rfl : hourly = stored := Option.some.inj ((find?_aliceLater _).symm.trans found)
    exact ⟨_, w', ran, ⟨_, rfl⟩, _, (after _).trans (if_pos rfl), isSpan.trans (by decide)⟩
  · obtain ⟨verdict, w', ran, judged, -⟩ :=
      accessTokens_judged (aliceLater ⟨3600, 0, rfl⟩) "tok" (some 300) none
        (inCalendar_aliceLater _)
    have expired : Judged (aliceLater ⟨3600, 0, rfl⟩) (TokenName.ofToken "tok")
        (.error .tokenExpired) := .expired (find?_aliceLater _) (by decide)
    obtain rfl := (judged _).1 expired
    exact ⟨w', ran⟩

end TokenAuthenticator

end TokenAuthority
