/-
# The window that a use opens

With an inactivity timeout of `T` seconds, a use of a token at `t` is meant to keep the token good
until `t + T`. What is noted is a span that counts from the creation `c` of the token: its age at
`t`, in whole seconds and never negative, and `T`, but at most 2147483647. So the window is
(`Pool.Run.window`)

| | | since |
| --- | --- | --- |
| open | up to `t + T - 1`, before `c + 2147483647` | the age is cut off to whole seconds |
| | one second less if `c` is in a leap second | the age does not count that one |
| closed | from `t + T` | |
| | from `c + T`, if `c` is later | a token from the future has age 0 |
| | never, if the age and `T` are both 0 | a span of 0 is off |

Each line but the first of its kind is needed (`TokenAuthenticator.window_limits`).
-/

import TokenAuthority.Proofs.Expiry
import TokenAuthority.Proofs.Overflow
import TokenAuthority.Proofs.Revocation

namespace TokenAuthority

open Http (Request Response)
open Resource (AccessToken)
open Time (Instant lastSecond nanosPerSecond)

namespace Resource.AccessToken

/-- What a use notes: the age and the timeout, up to the longest that a token can carry. -/
theorem toInt_inactivityTimeout_used (t : AccessToken) (now : Instant) (timeout : UInt64) :
    (t.used now timeout).inactivityTimeout.toInt =
      min ((t.age now).toNat + timeout.toNat : Int) longestTimeout := by
  have := timeout.toNat_lt
  unfold used
  dsimp only
  split
  · rename_i small
    rw [Int32.toInt_ofNat_of_lt small]
    simp only [UInt64.size, longestTimeout] at *
    omega
  · rename_i large
    rw [Int32.toInt_maxValue]
    simp only [UInt64.size, longestTimeout] at *
    omega

/-- Whether a token fits into the calendar is up to what lasts. -/
theorem Fits.of_lasting {t t' : AccessToken} (fits : t.Fits) (same : t'.lasting = t.lasting) :
    t'.Fits := by
  have metadata : t'.metadata = t.metadata := congrArg (·.metadata) same
  have expiresIn : t'.expiresIn = t.expiresIn := congrArg (·.expiresIn) same
  unfold Fits
  rwa [metadata, expiresIn]

end Resource.AccessToken

namespace TokenAuthenticator

/-- Only a stored token that has timed out is said to have. -/
theorem of_run_tokenTimedOut {timeout : Option UInt64} {token : String}
    {audiences : Option Audiences} {w : World}
    (said : ((accessTokens timeout token audiences : Task Verdict).run w).1 =
      some (.error .tokenTimedOut)) :
    ∃ stored, w.accessTokens.find? (TokenName.ofToken token) = some stored ∧
      stored.isTimedOut? w.clock = some true := by
  rw [run_accessTokens] at said
  cases found : w.accessTokens.find? (TokenName.ofToken token) with
  | none => simp [found] at said
  | some stored =>
    have user := not_saysOver_checkUser ((Store.name_of_find? found).symm ▸ found) timeout
    simp only [found] at said
    rcases expired : stored.isExpired? w.clock with _ | _ | _ <;> simp only [expired] at said
    · simp at said
    · rcases timedOut : stored.isTimedOut? w.clock with _ | _ | _ <;> simp only [timedOut] at said
      · simp at said
      · exact absurd (.inr said) user
      · exact ⟨stored, rfl, timedOut⟩
    · simp at said

end TokenAuthenticator

/-- What is stored after the note of a use. -/
theorem World.find?_afterUse (w : World) (token : AccessToken) (seconds : UInt64) (name : String) :
    (w.afterUse token (some seconds)).accessTokens.find? name =
      if name = Stored.name token then some (token.used w.clock seconds)
      else w.accessTokens.find? name :=
  Store.find?_put ..

/-! ### On the line -/

section Line

variable {t c now : Instant} {last timeout : Int}

/-- A use that is not before another one keeps a window open that was open for that one. -/
theorem Time.Instant.window_open (plain : now.IsPlain) (notBefore : t.nanos ≤ now.nanos)
    (inside : last ≤ t.nanos + (timeout - c.slack) * nanosPerSecond)
    (below : last < c.nanos + AccessToken.longestTimeout * nanosPerSecond) :
    last < c.nanos +
      min ((now.secondsSince c).toNat + timeout) AccessToken.longestTimeout * nanosPerSecond := by
  have := lt_toNat_secondsSince plain c
  simp only [nanosPerSecond] at *
  omega

/-- A window is closed when the timeout has passed since the use and since the creation. -/
theorem Time.Instant.window_closed (plain : t.IsPlain)
    (outside : max t.nanos c.nanos + timeout * nanosPerSecond ≤ last) :
    c.nanos + min ((t.secondsSince c).toNat + timeout) AccessToken.longestTimeout *
      nanosPerSecond ≤ last := by
  have := toNat_secondsSince_le plain c
  simp only [nanosPerSecond] at *
  omega

end Line

/-! ### The law of a window -/

/-- Since a time, the object of a name is what uses make of a token, and good beyond another
time. -/
def TokenLaw.window (token : AccessToken) (c : Instant) (first last : Int) : TokenLaw where
  clock now := now.IsPlain ∧ first ≤ now.nanos
  token stored := Stored.name stored = Stored.name token → stored.lasting = token.lasting ∧
    (0 < stored.inactivityTimeout.toInt →
      last < c.nanos + stored.inactivityTimeout.toInt * nanosPerSecond)

namespace TokenLaw

variable {token : AccessToken} {c t : Instant} {last : Int}
  (isCreated : token.metadata.created = some c)
include isCreated

section Uses

variable {seconds : UInt64}
  (inside : last ≤ t.nanos + (seconds.toNat - c.slack) * nanosPerSecond)
  (below : last < c.nanos + AccessToken.longestTimeout * nanosPerSecond)
include inside below

/-- A use in the window keeps the token in it. -/
theorem used_window {stored : AccessToken} (same : stored.lasting = token.lasting) {now : Instant}
    (clock : (window token c t.nanos last).clock now) :
    (window token c t.nanos last).token (stored.used now seconds) := by
  intro _
  refine ⟨same, fun _ => ?_⟩
  rw [AccessToken.toInt_inactivityTimeout_used, AccessToken.age,
    AccessToken.created_of_lasting isCreated same]
  exact Instant.window_open clock.1 clock.2 inside below

/-- Uses keep a token to the window. -/
theorem keptByUse_window : (window token c t.nanos last).KeptByUse (some seconds) := by
  intro seconds' stored now isSome legal clock named
  obtain rfl : seconds = seconds' := Option.some.inj isSome
  exact used_window isCreated inside below (legal named).1 clock named

/-- A use begins a window. -/
theorem holds_window {w : World} (clock : w.clock = t) (plain : t.IsPlain) :
    (window token c t.nanos last).Holds (w.afterUse token (some seconds)) := by
  subst clock
  refine ⟨⟨plain, le_refl _⟩, fun other stored present named => ?_⟩
  rw [World.find?_afterUse] at present
  split at present
  · obtain rfl := Option.some.inj present
    exact used_window isCreated inside below rfl ⟨plain, le_refl _⟩ named
  · rename_i elsewhere
    exact absurd ((Store.name_of_find? present).symm.trans named) elsewhere

end Uses

/-- In the window the token has not timed out. -/
theorem Holds.outcome {w : World} {first : Int}
    (holds : (window token c first w.clock.nanos).Holds w) {bearer : String}
    (bears : TokenName.ofToken bearer = Stored.name token) (timeout : Option UInt64)
    (audiences : Option Audiences) :
    let outcome :=
      ((TokenAuthenticator.accessTokens timeout bearer audiences : Task Verdict).run w).1
    outcome ≠ some (.error .tokenTimedOut) ∧ (token.Fits → outcome ≠ none) := by
  constructor
  · intro said
    obtain ⟨current, present, timedOut⟩ := TokenAuthenticator.of_run_tokenTimedOut said
    obtain ⟨same, good⟩ := holds.token _ current present ((Store.name_of_find? present).trans bears)
    rw [AccessToken.isTimedOut?, AccessToken.created_of_lasting isCreated same] at timedOut
    obtain ⟨positive, reached⟩ :=
      (AccessToken.spanIsOver?_eq_true_iff holds.clock.1 (by simp [timedOut])).1 timedOut
    exact absurd (good positive) (by omega)
  · intro fits abandoned
    obtain ⟨current, present, undecided⟩ :=
      TokenAuthenticator.run_accessTokens_eq_none_iff.1 abandoned
    obtain ⟨same, -⟩ := holds.token _ current present ((Store.name_of_find? present).trans bears)
    exact (fits.of_lasting same).inForce? _ undecided

end TokenLaw

/-- After the window a token that is as its use has left it is not accepted. -/
theorem TokenAuthenticator.not_accepted_of_window {stored : AccessToken} {c t : Instant} {w : World}
    {token : String} {seconds : UInt64} (isCreated : stored.metadata.created = some c)
    (plain : t.IsPlain)
    (kept : w.accessTokens.find? (TokenName.ofToken token) = some (stored.used t seconds))
    (counts : 0 < (t.secondsSince c).toNat + seconds.toNat)
    (outside : max t.nanos c.nanos + seconds.toNat * nanosPerSecond ≤ w.clock.nanos)
    (timeout : Option UInt64) (audiences : Option Audiences) (accepted : Accepted) :
    ((accessTokens timeout token audiences : Task Verdict).run w).1 ≠
      some (.ok (some accepted)) := by
  intro again
  obtain ⟨current, present, -, notTimedOut, -⟩ := of_run_accessTokens (Prod.ext again rfl)
  obtain rfl := Option.some.inj (kept.symm.trans present)
  rw [AccessToken.isTimedOut?,
    AccessToken.created_of_lasting isCreated (stored.lasting_used t seconds),
    AccessToken.toInt_inactivityTimeout_used, AccessToken.age,
    AccessToken.created_of_lasting isCreated rfl] at notTimedOut
  refine AccessToken.spanIsOver?_ne_some_false ?_ (Instant.window_closed plain outside) notTimedOut
  simp only [AccessToken.longestTimeout]
  omega

namespace Pool

open TokenAuthenticator (accessTokens)

variable {ι : Type} [DecidableEq ι]

/-- **A use opens a window of the length of the timeout.** A token that was created at `c` is
accepted in a world `u` at the time `t`. Then any number of requests are made to an application with
the same timeout, and make their calls in any order, at times not before `t`; no other token is put
in under the name. At any moment `s` of this, up to a second before the timeout has passed since
`t`, or two if `c` is in a leap second, and before the longest span that can be stored is over, an
authentication of the token does not end with `tokenTimedOut`, and ends if the token fits into the
calendar. And if it is still as the use has left it, and if the use has noted a span at all, then
the token is not accepted once the timeout has passed since `t` and since `c`. -/
theorem Run.window {settings : Settings} {tokens : List StaticToken} {policy : List PolicyRule}
    {post : Webhook.Transport Task} {configuration : String → ExceptT String Task (Option String)}
    {app : App Task} {w w' : World} {timeout : UInt64}
    (assembled : (App.assemble settings tokens policy post configuration).run w =
      (some (.ok app), w'))
    (inert : ∀ url seconds review, ∃ reply, post url seconds review = .done reply)
    (limit : settings.authentication.inactivityTimeout = some timeout) {token : String}
    {audiences : Option Audiences} {accepted : Accepted} {u v : World} {stored : AccessToken}
    {c : Instant} (found : u.accessTokens.find? (TokenName.ofToken token) = some stored)
    (isCreated : stored.metadata.created = some c) (plain : u.clock.IsPlain)
    (used : (accessTokens (some timeout) token audiences : Task Verdict).run u =
      (some (.ok (some accepted)), v))
    {requests : ι → Request} {s₀ s : Pool ι Response} {es : List (Event ι)}
    (world : s₀.world = v) (begins : ∀ i, s₀.tasks i = app.answer (requests i))
    (run : Run s₀ es s)
    (ticks : ∀ clock, .tick clock ∈ es → clock.IsPlain ∧ u.clock.nanos ≤ clock.nanos)
    (noInsertion : ∀ e ∈ es, ¬e.Inserts .accessTokens (TokenName.ofToken token)) :
    let outcome (audiences : Option Audiences) :=
      ((accessTokens (some timeout) token audiences : Task Verdict).run s.world).1
    (s.world.clock.nanos ≤ u.clock.nanos + (timeout.toNat - c.slack) * nanosPerSecond →
      s.world.clock.nanos < c.nanos + AccessToken.longestTimeout * nanosPerSecond →
      ∀ audiences, outcome audiences ≠ some (.error .tokenTimedOut) ∧
        (stored.Fits → outcome audiences ≠ none)) ∧
    (s.world.accessTokens.find? (TokenName.ofToken token) =
        v.accessTokens.find? (TokenName.ofToken token) →
      0 < (u.clock.secondsSince c).toNat + timeout.toNat →
      max u.clock.nanos c.nanos + timeout.toNat * nanosPerSecond ≤ s.world.clock.nanos →
      ∀ audiences accepted, outcome audiences ≠ some (.ok (some accepted))) := by
  intro outcome
  obtain ⟨stored', found', -, -, rfl⟩ := TokenAuthenticator.of_run_accessTokens used
  obtain rfl : stored = stored' := Option.some.inj (found.symm.trans found')
  have name := Store.name_of_find? found
  constructor
  · intro inside below audiences
    have uses := TokenLaw.keptByUse_window isCreated inside below
    have begun : (TokenLaw.window stored c u.clock.nanos s.world.clock.nanos).Holds s₀.world := by
      rw [world]
      exact TokenLaw.holds_window isCreated inside below rfl plain
    obtain ⟨holds, -⟩ := run.requests_underLaw assembled inert begins (limit ▸ uses) begun ticks
      fun i x made object answer inserted named => by
        subst inserted
        exact absurd ⟨i, object, answer, rfl, named.trans name⟩ (noInsertion _ made)
    exact holds.outcome isCreated name.symm (some timeout) audiences
  · intro kept counts outside audiences accepted
    rw [World.find?_afterUse, if_pos name.symm] at kept
    exact TokenAuthenticator.not_accepted_of_window isCreated plain kept counts outside
      (some timeout) audiences accepted

/-- The hypotheses of `window` are satisfiable: a token that is used after half a minute with a
timeout of five is good for four more, and is not accepted after five. -/
theorem Run.window_half_minute :
    let stored : AccessToken := {
      metadata := { name := "tok", created := some .epoch }, userName := "alice" }
    let alice : Resource.User := { metadata := { name := "alice" } }
    let settings : Settings := { authentication := { inactivityTimeout := some 300 } }
    let request := Request.getAlice "tok"
    let app := App.selfContained settings [] []
    let u : World := ⟨⟨30, 0, rfl⟩, Store.put { capacity := 9 } stored,
      Store.put { capacity := 9 } alice, []⟩
    let authenticate (w : World) := (accessTokens (some 300) "tok" none : Task Verdict).run w
    let s₀ : Pool Unit Response := ⟨(authenticate u).2, fun _ => app.answer request⟩
    (∃ s, Run s₀ [.tick ⟨270, 0, rfl⟩] s ∧
        (authenticate s.world).1 ≠ some (.error .tokenTimedOut) ∧
        (authenticate s.world).1 ≠ none) ∧
      ∃ s, Run s₀ [.tick ⟨330, 0, rfl⟩] s ∧
        ∀ accepted, (authenticate s.world).1 ≠ some (.ok (some accepted)) := by
  intro stored alice settings request app u authenticate s₀
  have plugins : settings.admission.pluginNames = [Admission.AuditLogouts.name] :=
    (by decide +kernel : Settings.Admission.pluginNames {} = [Admission.AuditLogouts.name])
  obtain ⟨w', assembled⟩ := App.run_assemble_selfContained rfl plugins [] []
    (fun _ _ _ => .done none) u
  have used : authenticate u = (some (.ok (some { user := .named "alice" })), (authenticate u).2) :=
    rfl
  have fits : stored.Fits := ⟨.epoch, rfl, by decide, by decide⟩
  constructor
  · have run : Run s₀ [.tick ⟨270, 0, rfl⟩] _ := .cons (.tick _ _) (.nil _)
    obtain ⟨good, -⟩ := run.window assembled (fun _ _ _ => ⟨_, rfl⟩) rfl rfl rfl (by decide) used
      rfl (fun _ => rfl) (by simp; decide) (by simp [Event.Inserts])
    obtain ⟨notTimedOut, ends⟩ := good (by decide) (by decide) none
    exact ⟨_, run, notTimedOut, ends fits⟩
  · have run : Run s₀ [.tick ⟨330, 0, rfl⟩] _ := .cons (.tick _ _) (.nil _)
    obtain ⟨-, ended⟩ := run.window assembled (fun _ _ _ => ⟨_, rfl⟩) rfl rfl rfl (by decide) used
      rfl (fun _ => rfl) (by simp; decide) (by simp [Event.Inserts])
    exact ⟨_, run, ended rfl (by decide) (by decide) none⟩

end Pool

/-- The limits of the window are needed. In 2026, with a timeout of five minutes, a token of the
year 1900 times out as soon as it is used, and one that will have been created a thousand seconds
later is good for more than five minutes. With a timeout of zero, a token that is used at once never
times out. And a token from a leap second that is used on the next day is good for one second
less. -/
theorem TokenAuthenticator.window_limits :
    let alice : Resource.User := { metadata := { name := "alice" } }
    let server (created clock : Instant) : World :=
      ⟨clock, Store.put { capacity := 9 }
        { metadata := { name := "tok", created := some created }, userName := "alice" },
        Store.put { capacity := 9 } alice, []⟩
    let authenticate (timeout : UInt64) (w : World) :=
      (accessTokens (some timeout) "tok" none : Task Verdict).run w
    let again (timeout : UInt64) (w : World) (clock : Instant) :=
      (authenticate timeout { (authenticate timeout w).2 with clock }).1
    let now : Instant := ⟨1767225600, 0, rfl⟩
    let accepted : Option Verdict := some (.ok (some { user := .named "alice" }))
    ((authenticate 300 (server ⟨-2208988800, 0, rfl⟩ now)).1 = accepted ∧
        again 300 (server ⟨-2208988800, 0, rfl⟩ now) now = some (.error .tokenTimedOut)) ∧
      ((authenticate 300 (server ⟨1767226600, 0, rfl⟩ now)).1 = accepted ∧
        again 300 (server ⟨1767226600, 0, rfl⟩ now) ⟨1767226500, 0, rfl⟩ = accepted) ∧
      ((authenticate 0 (server now now)).1 = accepted ∧
        again 0 (server now now) ⟨1767226500, 0, rfl⟩ = accepted) ∧
      (authenticate 300 (server ⟨59, 1500000000, rfl⟩ ⟨86400, 0, rfl⟩)).1 = accepted ∧
        again 300 (server ⟨59, 1500000000, rfl⟩ ⟨86400, 0, rfl⟩) ⟨86699, 0, rfl⟩ =
          some (.error .tokenTimedOut) :=
  ⟨⟨rfl, rfl⟩, ⟨rfl, rfl⟩, ⟨rfl, rfl⟩, rfl, rfl⟩

end TokenAuthority
