/-
# Spans that run out of the calendar

The end of a span may lie after the last instant that can be represented, and then the request that
asks for it is abandoned without an answer. An authentication is abandoned exactly for a stored
token of which this is so (`run_accessTokens_eq_none_iff`):

| span | abandoned if |
| --- | --- |
| `expiresIn` | it is positive, and its end is after the last second |
| `inactivityTimeout` | the same, and the token has not expired |

Nothing that is posted is refused for this. But if the tokens that are put in fit into the calendar,
with their lifetime and with the longest inactivity timeout that a use can note, then no request is
ever abandoned (`Pool.Run.unabandoned`). A lifetime of 9223372036854775807 seconds never fits
(`App.abandoned_lifelong`).
-/

import TokenAuthority.Proofs.TokenChecks
import TokenAuthority.Proofs.Timeline
import TokenAuthority.Proofs.TokenLaw

namespace TokenAuthority

open Http (Request Response)
open Resource (AccessToken)
open Time (Instant lastSecond)

namespace Resource.AccessToken

/-- The longest inactivity timeout that a token can carry, in seconds. -/
def longestTimeout : Int := 2147483647

/-- An inactivity timeout has 32 bits. -/
theorem inactivityTimeout_le (t : AccessToken) : t.inactivityTimeout.toInt ≤ longestTimeout :=
  t.inactivityTimeout.toInt_le

/-- The spans cannot be added up when the lifetime ends outside of the calendar, or it is not over
and the inactivity timeout does. -/
theorem inForce?_eq_none_iff {t : AccessToken} {now : Instant} :
    t.inForce? now = none ↔
      (0 < t.expiresIn.toInt ∧ lastSecond < (t.created now).second + t.expiresIn.toInt) ∨
        t.isExpired? now = some false ∧ 0 < t.inactivityTimeout.toInt ∧
          lastSecond < (t.created now).second + t.inactivityTimeout.toInt := by
  have expiry : t.isExpired? now = none ↔ _ := spanIsOver?_eq_none_iff
  have inactivity : t.isTimedOut? now = none ↔ _ := spanIsOver?_eq_none_iff
  rw [← expiry, ← inactivity]
  unfold inForce?
  rcases t.isExpired? now with _ | _ | _
  · simp
  · rcases t.isTimedOut? now with _ | _ | _ <;> simp
  · simp

/-- A token fits into the calendar: it carries the time of its creation, and neither its lifetime
since then nor any inactivity timeout runs out of it. -/
def Fits (t : AccessToken) : Prop :=
  ∃ c, t.metadata.created = some c ∧ c.second + t.expiresIn.toInt ≤ lastSecond ∧
    c.second + longestTimeout ≤ lastSecond

/-- A token that fits is always known to be in force or not. -/
theorem Fits.inForce? {t : AccessToken} (fits : t.Fits) (now : Instant) :
    t.inForce? now ≠ none := by
  obtain ⟨c, isCreated, lifetime, timeout⟩ := fits
  have start : t.created now = c := by rw [created, isCreated]; rfl
  have := t.inactivityTimeout_le
  rw [Ne, inForce?_eq_none_iff, start]
  rintro (⟨-, late⟩ | ⟨-, -, late⟩) <;> omega

end Resource.AccessToken

namespace TokenAuthenticator

/-- The check of the user is not abandoned when the token is stored. -/
theorem run_checkUser_ne_none {token old : AccessToken} {w : World}
    (stored : w.accessTokens.find? (Stored.name token) = some old) (timeout : Option UInt64) :
    ((checkUser token timeout : Task Verdict).run w).1 ≠ none := by
  rw [run_checkUser stored]
  split
  · simp
  · split <;> simp

/-- **Exactly what authentication is abandoned for.** -/
theorem run_accessTokens_eq_none_iff {timeout : Option UInt64} {token : String}
    {audiences : Option Audiences} {w : World} :
    ((accessTokens timeout token audiences : Task Verdict).run w).1 = none ↔
      ∃ stored, w.accessTokens.find? (TokenName.ofToken token) = some stored ∧
        stored.inForce? w.clock = none := by
  rw [run_accessTokens]
  cases found : w.accessTokens.find? (TokenName.ofToken token) with
  | none => simp
  | some stored =>
    have checked := run_checkUser_ne_none ((Store.name_of_find? found).symm ▸ found) timeout
    simp only [Option.some.injEq, exists_eq_left', AccessToken.inForce?]
    rcases stored.isExpired? w.clock with _ | _ | _
    · simp
    · rcases stored.isTimedOut? w.clock with _ | _ | _ <;> simp [checked]
    · simp

end TokenAuthenticator

/-- The spans of the token of `alice` can be added up. -/
theorem World.inForce?_aliceHolds (stored : AccessToken)
    (found : aliceHolds.accessTokens.find? (TokenName.ofToken "tok") = some stored) :
    stored.inForce? aliceHolds.clock ≠ none := by
  have known : (aliceHolds.accessTokens.find? (TokenName.ofToken "tok")).all
      (·.inForce? aliceHolds.clock |>.isSome) = true := by decide +kernel
  rw [found] at known
  exact Option.isSome_iff_ne_none.1 known

/-- All tokens fit into the calendar. -/
def TokenLaw.fitting : TokenLaw where
  clock _ := True
  token := AccessToken.Fits

namespace Pool

open TokenAuthenticator (accessTokens)

variable {ι : Type} [DecidableEq ι]

/-- **No request is abandoned as long as the tokens fit into the calendar.** Let any number of
requests be made to an application, and let them make their calls in any order, at any times. If all
tokens fit that were stored at the beginning and that were put in since, then no request has been
abandoned, whatever uses of tokens were noted, and no token of whatever name could be authenticated
now without a result. In any world, fitting or not, authentication is abandoned exactly for a stored
token with a span that ends after the last second. -/
theorem Run.unabandoned {settings : Settings} {tokens : List StaticToken}
    {policy : List PolicyRule} {post : Webhook.Transport Task}
    {configuration : String → ExceptT String Task (Option String)} {app : App Task} {w w' : World}
    (assembled : (App.assemble settings tokens policy post configuration).run w =
      (some (.ok app), w'))
    (inert : ∀ url seconds review, ∃ reply, post url seconds review = .done reply)
    {requests : ι → Request} {s₀ s : Pool ι Response} {es : List (Event ι)}
    (begins : ∀ i, s₀.tasks i = app.answer (requests i)) (run : Run s₀ es s)
    (fit : ∀ name stored, s₀.world.accessTokens.find? name = some stored → stored.Fits)
    (fitting : ∀ i object stored,
      .exchange i ⟨.store .accessTokens (.insert object), .ok stored⟩ ∈ es → object.Fits) :
    (∀ i, s.tasks i ≠ .abandoned) ∧
      (∀ timeout token audiences,
        ((accessTokens timeout token audiences : Task Verdict).run s.world).1 ≠ none) ∧
      ∀ (w : World) timeout token audiences,
        ((accessTokens timeout token audiences : Task Verdict).run w).1 = none ↔
          ∃ stored, w.accessTokens.find? (TokenName.ofToken token) = some stored ∧
            ((0 < stored.expiresIn.toInt ∧
                lastSecond < (stored.created w.clock).second + stored.expiresIn.toInt) ∨
              stored.isExpired? w.clock = some false ∧ 0 < stored.inactivityTimeout.toInt ∧
                lastSecond < (stored.created w.clock).second + stored.inactivityTimeout.toInt) := by
  have uses : TokenLaw.fitting.KeptByUse settings.authentication.inactivityTimeout :=
    fun _ _ _ _ fits _ => fits
  obtain ⟨holds, stops⟩ := run.requests_underLaw assembled inert begins uses ⟨trivial, fit⟩
    (fun _ _ => trivial)
    fun i x made object stored inserted => fitting i object stored (inserted ▸ made)
  refine ⟨fun i abandoned => ?_, fun timeout token audiences abandoned => ?_, fun w _ _ _ => ?_⟩
  · obtain ⟨stored, now, fits, -, undecided⟩ := stops i abandoned
    exact AccessToken.Fits.inForce? fits now undecided
  · obtain ⟨stored, found, undecided⟩ :=
      TokenAuthenticator.run_accessTokens_eq_none_iff.1 abandoned
    exact AccessToken.Fits.inForce? (holds.token _ stored found) _ undecided
  · simp only [TokenAuthenticator.run_accessTokens_eq_none_iff, AccessToken.inForce?_eq_none_iff]

/-- The hypotheses of `unabandoned` are satisfiable: a minute passes while the holder of a stored
token waits for an answer. -/
theorem Run.unabandoned_minute :
    let stored : AccessToken := {
      metadata := { name := "tok", created := some .epoch }
      expiresIn := 3600
      userName := "alice" }
    let request := Request.getAlice "tok"
    let app := App.selfContained {} [] []
    let w : World := ⟨.epoch, Store.put { capacity := 9 } stored, { capacity := 9 }, []⟩
    ∃ s, Run ⟨w, fun _ : Unit => app.answer request⟩ [.tick ⟨60, 0, rfl⟩] s ∧
      ((accessTokens (some 5) "tok" none : Task Verdict).run s.world).1 ≠ none := by
  intro stored request app w
  obtain ⟨w', assembled⟩ := App.run_assemble_selfContained (s := {}) rfl (by decide +kernel)
    [] [] (fun _ _ _ => .done none) w
  have run : Run ⟨w, fun _ : Unit => app.answer request⟩ [.tick ⟨60, 0, rfl⟩] _ :=
    .cons (.tick _ _) (.nil _)
  have fit (name : String) (object : AccessToken)
      (found : w.accessTokens.find? name = some object) : object.Fits := by
    rw [show w.accessTokens = Store.put { capacity := 9 } stored from rfl, Store.find?_put] at found
    split at found
    · obtain rfl := Option.some.inj found
      exact ⟨.epoch, rfl, by decide, by decide⟩
    · cases found
  obtain ⟨-, results, -⟩ := run.unabandoned assembled (fun _ _ _ => ⟨_, rfl⟩) (fun _ => rfl) fit
    (by simp)
  exact ⟨_, run, results (some 5) "tok" none⟩

end Pool

/-- A token is accepted with a lifetime of which authentication can make nothing: one that is posted
for 9223372036854775807 seconds is stored, and then every request with it is abandoned. -/
theorem App.abandoned_lifelong :
    let name := "0123456789abcdef0123456789abcdef"
    let app := App.selfContained {} [.admin] [.adminCreates]
    let posted := (app.answer (.postToken name none 9223372036854775807)).run
      ⟨.epoch, { capacity := 9 }, { capacity := 9 }, []⟩
    posted.1.map (·.status) = some 201 ∧
      ((app.answer (.getAlice name)).run posted.2).1.map (·.status) = none := by
  decide +kernel

end TokenAuthority
