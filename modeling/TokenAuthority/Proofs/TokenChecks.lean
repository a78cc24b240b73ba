/-
# What checking a stored token comes to

The authenticator of stored tokens as a function of the world, when no other request comes between
its calls (`run_accessTokens`, `run_checkUser`). It changes two things at most: it notes a use in
the stored token, if all checks pass and there is an inactivity timeout, and it writes a warning if
the user is not the one to whom the token was issued.
-/

import TokenAuthority.Authentication.AccessTokens

namespace TokenAuthority

open Resource (AccessToken User)

namespace Task

variable {α β : Type}

/-- A lookup finds what is stored, and leaves the world. -/
theorem run_find (c : Collection) (name : String) (w : World) :
    (Backend.find c name : Task _).run w = (some ((w.store c).find? name), w) := by
  cases c <;> rfl

/-- The clock tells the time of the world. -/
theorem run_now (w : World) : (Backend.now : Task _).run w = (some w.clock, w) := rfl

/-- What cannot be computed is abandoned. -/
theorem run_orAbandon (o : Option α) (w : World) :
    (Backend.orAbandon o : Task α).run w = (o, w) := by
  cases o <;> rfl

/-- Tasks do not change the clock. -/
theorem clock_run (t : Task α) (w : World) : (t.run w).2.clock = w.clock := by
  induction t generalizing w with
  | done a => rfl
  | abandoned => rfl
  | call c next ih =>
    rw [run_call, ih]
    cases c with
    | now => rfl
    | record entry => rfl
    | store c op => cases c <;> rfl

end Task

/-- The world after a use of a token was noted. -/
def World.afterUse (w : World) (token : AccessToken) : Option UInt64 → World
  | none => w
  | some timeout => { w with accessTokens := w.accessTokens.put (token.used w.clock timeout) }

namespace TokenAuthenticator

/-- Noting a use pushes the deadline of the token that is stored. -/
theorem run_noteUse {token old : AccessToken} {w : World}
    (stored : w.accessTokens.find? (Stored.name token) = some old) (timeout : UInt64) :
    (noteUse token timeout : Task _).run w = (some (.ok ()), w.afterUse token (some timeout)) := by
  have replaced : (Backend.replace .accessTokens (token.used w.clock timeout) : Task _).run w =
      (some (.ok (token.used w.clock timeout)), w.afterUse token (some timeout)) := by
    have put : w.accessTokens.perform (.replace (token.used w.clock timeout)) =
        (.ok (token.used w.clock timeout), w.accessTokens.put (token.used w.clock timeout)) :=
      Store.perform_replace_of_found stored
    exact congrArg (fun r => (some r.1, { w with accessTokens := r.2 })) put
  unfold noteUse
  rw [Task.bind_eq, Task.run_bind_of_some (Task.run_now w), Task.bind_eq,
    Task.run_bind_of_some replaced]
  rfl

/-- What the check of the user answers, and what it leaves behind, from the user that is stored. -/
theorem run_checkUser {token old : AccessToken} {w : World}
    (stored : w.accessTokens.find? (Stored.name token) = some old) (timeout : Option UInt64) :
    (checkUser token timeout : Task Verdict).run w =
      match w.users.find? token.userName with
      | none => (some (.error (.userNotFound token.userName)), w)
      | some user =>
        if user.identifier ≠ token.userUid then
          (some (.error (.userUidMismatch user.identifier token.userUid)),
            { w with journal := w.journal ++ [.message .warning
              ("Access token for " ++ token.userName ++ " carries a stale user UID")] })
        else (some (.ok (some { user := token.identity user })), w.afterUse token timeout) := by
  unfold checkUser
  rw [Task.bind_eq, Task.run_bind_of_some (Task.run_find .users token.userName w)]
  change Task.run (match w.users.find? token.userName with | none => _ | some user => _) w = _
  cases w.users.find? token.userName with
  | none => rfl
  | some user =>
    dsimp only
    split
    · rfl
    · cases timeout with
      | none => rfl
      | some timeout =>
        dsimp only
        rw [Task.bind_eq, Task.run_bind_of_some (run_noteUse stored timeout)]
        rfl

/-- What the authenticator answers, and what it leaves behind, from the token that is stored. -/
theorem run_accessTokens (timeout : Option UInt64) (token : String) (audiences : Option Audiences)
    (w : World) :
    (accessTokens timeout token audiences : Task Verdict).run w =
      match w.accessTokens.find? (TokenName.ofToken token) with
      | none => (some (.ok none), w)
      | some stored =>
        match stored.isExpired? w.clock with
        | none => (none, w)
        | some true => (some (.error .tokenExpired), w)
        | some false =>
          match stored.isTimedOut? w.clock with
          | none => (none, w)
          | some true => (some (.error .tokenTimedOut), w)
          | some false => (checkUser stored timeout : Task Verdict).run w := by
  unfold accessTokens
  rw [Task.bind_eq, Task.run_bind_of_some (Task.run_find .accessTokens _ w)]
  change Task.run (match w.accessTokens.find? _ with | none => _ | some stored => _) w = _
  cases w.accessTokens.find? (TokenName.ofToken token) with
  | none => rfl
  | some stored =>
    dsimp only
    rw [Task.bind_eq, Task.run_bind_of_some (Task.run_now w), Task.bind_eq, Task.run_bind,
      Task.run_orAbandon]
    cases stored.isExpired? w.clock with
    | none => rfl
    | some expired =>
      cases expired with
      | true => rfl
      | false =>
        dsimp only
        rw [if_neg Bool.false_ne_true, Task.bind_eq, Task.run_bind, Task.run_orAbandon]
        cases stored.isTimedOut? w.clock with
        | none => rfl
        | some timedOut => cases timedOut <;> rfl

/-- A token is accepted only if it is stored, and neither expired nor timed out; then its use is
noted. -/
theorem of_run_accessTokens {timeout : Option UInt64} {token : String}
    {audiences : Option Audiences} {accepted : Accepted} {w w' : World}
    (h : (accessTokens timeout token audiences : Task Verdict).run w =
      (some (.ok (some accepted)), w')) :
    ∃ stored, w.accessTokens.find? (TokenName.ofToken token) = some stored ∧
      stored.isExpired? w.clock = some false ∧ stored.isTimedOut? w.clock = some false ∧
        w' = w.afterUse stored timeout := by
  rw [run_accessTokens] at h
  cases found : w.accessTokens.find? (TokenName.ofToken token) with
  | none => simp [found] at h
  | some stored =>
    simp only [found] at h
    rcases expired : stored.isExpired? w.clock with _ | _ | _ <;> simp only [expired] at h
    · simp at h
    · rcases timedOut : stored.isTimedOut? w.clock with _ | _ | _ <;> simp only [timedOut] at h
      · simp at h
      · refine ⟨stored, rfl, expired, timedOut, ?_⟩
        rw [run_checkUser ((Store.name_of_find? found).symm ▸ found)] at h
        split at h
        · simp at h
        · split at h
          · simp at h
          · exact (congrArg Prod.snd h).symm
      · simp at h
    · simp at h

end TokenAuthenticator

end TokenAuthority
