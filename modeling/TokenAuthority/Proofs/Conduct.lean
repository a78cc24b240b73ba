/-
# What becomes of stored tokens

`Task.Behaves` says what a task may do with stored access tokens, whatever it is answered. Anything
it finds, it may use, and then it notes the use in what it has found:

| what happens | why |
| --- | --- |
| a stored token is replaced | it was found, and is written back with the note of its use |
| the task is abandoned | a token was found whose spans cannot be added up |

Authenticators behave in this way. What is left of a task that behaves still behaves, with what it
has heard (`Task.Behaves.after`).
-/

import TokenAuthority.Proofs.Frame
import TokenAuthority.Proofs.Interleaving

namespace TokenAuthority

open Resource (AccessToken)
open Time (Instant)

namespace Resource.AccessToken

/-- What the spans of a token say at a time: the error for the first that is over, if any is. -/
def inForce? (t : AccessToken) (now : Instant) : Option (Except AuthenticationError Unit) :=
  match t.isExpired? now with
  | none => none
  | some true => some (.error .tokenExpired)
  | some false =>
    match t.isTimedOut? now with
    | none => none
    | some true => some (.error .tokenTimedOut)
    | some false => some (.ok ())

/-- What a use leaves as it is: all but the inactivity timeout. -/
def lasting (t : AccessToken) : AccessToken :=
  { t with inactivityTimeout := 0 }

/-- A use leaves what lasts. -/
@[simp] theorem lasting_used (t : AccessToken) (now : Instant) (timeout : UInt64) :
    (t.used now timeout).lasting = t.lasting := rfl

/-- The time of creation lasts. -/
theorem created_of_lasting {t t' : AccessToken} {c : Instant}
    (isCreated : t.metadata.created = some c) (same : t'.lasting = t.lasting) (now : Instant) :
    t'.created now = c := by
  have metadata : t'.metadata = t.metadata := congrArg (·.metadata) same
  rw [created, metadata, isCreated]
  rfl

end Resource.AccessToken

namespace Exchange

/-- A stored token was found. -/
def Finds (heard : List Exchange) (stored : AccessToken) : Prop :=
  ∃ name, ⟨.store .accessTokens (.find name), some stored⟩ ∈ heard

/-- The time was read. -/
def Reads (heard : List Exchange) (now : Instant) : Prop :=
  ⟨.now, now⟩ ∈ heard

end Exchange

namespace Task

open Exchange (Finds Reads)

variable {α β : Type} {timeout : Option UInt64} {heard later : List Exchange}

/-- Whether a task that has heard some answers does with stored tokens what it may. -/
def Behaves (timeout : Option UInt64) : List Exchange → Task α → Prop
  | _, done _ => True
  | heard, abandoned => ∃ stored now, Finds heard stored ∧ Reads heard now ∧
      stored.inForce? now = none
  | heard, call c next =>
      (∀ object, c = .store .accessTokens (.replace object) → ∃ stored now seconds,
        Finds heard stored ∧ Reads heard now ∧ timeout = some seconds ∧
          object = stored.used now seconds) ∧
      ∀ answer, (next answer).Behaves timeout (⟨c, answer⟩ :: heard)

/-- Having heard more does no harm. -/
theorem Behaves.mono {t : Task α} (ht : t.Behaves timeout heard) (more : heard ⊆ later) :
    t.Behaves timeout later := by
  induction t generalizing heard later with
  | done a => trivial
  | abandoned =>
    obtain ⟨stored, now, ⟨name, found⟩, read, undecided⟩ := ht
    exact ⟨stored, now, ⟨name, more found⟩, more read, undecided⟩
  | call c next ih =>
    obtain ⟨replaces, goes⟩ := ht
    refine ⟨fun object replaced => ?_, fun answer =>
      ih answer (goes answer) (List.cons_subset_cons _ more)⟩
    obtain ⟨stored, now, seconds, ⟨name, found⟩, read, limit, used⟩ := replaces object replaced
    exact ⟨stored, now, seconds, ⟨name, more found⟩, more read, limit, used⟩

/-- A task that behaves in both parts behaves, whatever was heard before. -/
theorem Behaves.bind {t : Task α} {f : α → Task β} (ht : t.Behaves timeout heard)
    (hf : ∀ a, (f a).Behaves timeout []) : (t.bind f).Behaves timeout heard := by
  induction t generalizing heard with
  | done a => exact (hf a).mono (List.nil_subset _)
  | abandoned => exact ht
  | call c next ih => exact ⟨ht.1, fun answer => ih answer (ht.2 answer)⟩

/-- A call that replaces no token, whatever has been heard. -/
theorem behaves_call {c : Call} {next : c.Answer → Task α}
    (goes : ∀ answer, (next answer).Behaves timeout [])
    (replaces : ∀ object, c ≠ .store .accessTokens (.replace object) := by rintro _ ⟨⟩) :
    (call c next).Behaves timeout heard :=
  ⟨fun object replaced => absurd replaced (replaces object),
    fun answer => (goes answer).mono (List.nil_subset _)⟩

/-- A task that only asks behaves. -/
theorem IsQuiet.behaves {t : Task α} (quiet : t.IsQuiet) : t.Behaves timeout heard := by
  induction t generalizing heard with
  | done a => trivial
  | abandoned => exact quiet.elim
  | call c next ih =>
    refine ⟨?_, fun answer => ih answer (quiet.2 answer)⟩
    rintro object rfl
    cases quiet.1

/-- **What is left of a task that behaves still behaves.** -/
theorem Behaves.after {t left : Task α} (ht : t.Behaves timeout heard)
    (after : t.After later left) : left.Behaves timeout (later.reverse ++ heard) := by
  induction after generalizing heard with
  | nothing p => exact ht
  | heard after ih =>
    rw [List.reverse_cons, List.append_assoc]
    exact ih (ht.2 _)

end Task

/-! ### Authenticators -/

namespace TokenAuthenticator

open Exchange (Finds Reads)

variable {timeout : Option UInt64} {heard : List Exchange}

/-- The check of the user of a token that was found behaves. -/
theorem behaves_checkUser {stored : AccessToken} (found : Finds heard stored) :
    (checkUser stored timeout : Task Verdict).Behaves timeout heard := by
  obtain ⟨name, found⟩ := found
  refine ⟨by rintro _ ⟨⟩, fun user => ?_⟩
  cases user with
  | none => trivial
  | some user =>
    dsimp only [Task.done_bind]
    split
    · exact Task.behaves_call fun _ => trivial
    · cases timeout with
      | none => trivial
      | some seconds =>
        -- the time is read again, now that the token has been checked
        refine ⟨by rintro _ ⟨⟩, fun now => ⟨?_, fun answer => ?_⟩⟩
        · rintro object ⟨⟩
          exact ⟨stored, now, seconds,
            ⟨name, List.mem_cons_of_mem _ (List.mem_cons_of_mem _ found)⟩, List.mem_cons_self, rfl,
            rfl⟩
        · cases answer <;> trivial

/-- The authenticator of stored tokens, with the checks of the spans as one. -/
theorem accessTokens_eq (timeout : Option UInt64) (token : String) (audiences : Option Audiences) :
    accessTokens timeout token audiences =
      (Task.call (.store .accessTokens (.find (TokenName.ofToken token))) fun
        | none => .done (.ok none)
        | some stored => .call .now fun now =>
          match stored.inForce? now with
          | none => .abandoned
          | some (.error e) => .done (.error e)
          | some (.ok ()) => checkUser stored timeout : Task Verdict) := by
  refine congrArg (Task.call _) (funext fun stored => ?_)
  cases stored with
  | none => rfl
  | some stored =>
    refine congrArg (Task.call _) (funext fun now => ?_)
    dsimp only [AccessToken.inForce?, Task.bind_eq, Task.done_bind]
    rcases stored.isExpired? now with _ | _ | _
    · rfl
    · rcases stored.isTimedOut? now with _ | _ | _ <;> rfl
    · rfl

/-- The authenticator of stored tokens behaves. -/
theorem behaves_accessTokens (timeout : Option UInt64) (token : String)
    (audiences : Option Audiences) :
    (accessTokens timeout token audiences : Task Verdict).Behaves timeout heard := by
  rw [accessTokens_eq]
  refine ⟨by rintro _ ⟨⟩, fun stored => ?_⟩
  cases stored with
  | none => trivial
  | some stored =>
    refine ⟨by rintro _ ⟨⟩, fun now => ?_⟩
    have found : Finds (⟨.now, now⟩ ::
        ⟨.store .accessTokens (.find (TokenName.ofToken token)), some stored⟩ :: heard) stored :=
      ⟨_, List.mem_cons_of_mem _ List.mem_cons_self⟩
    dsimp only
    rcases inForce : stored.inForce? now with _ | _ | ⟨⟩
    · exact ⟨stored, now, found, List.mem_cons_self, inForce⟩
    · trivial
    · exact behaves_checkUser found

/-- A check of the audiences behaves if what it asks does. -/
theorem behaves_audienceAgnostic {delegate : TokenAuthenticator Task}
    (h : ∀ token audiences, (delegate token audiences).Behaves timeout []) (own : Audiences)
    (token : String) (audiences : Option Audiences) :
    (audienceAgnostic own delegate token audiences).Behaves timeout [] := by
  unfold audienceAgnostic
  dsimp only
  split
  · exact h _ _
  · split
    · trivial
    · exact (h _ _).bind fun _ => trivial

/-- Members that behave do so when they are asked one after the other. -/
theorem behaves_firstAccepted {token : String} {audiences : Option Audiences}
    {members : List (TokenAuthenticator Task)}
    (h : ∀ a ∈ members, (a token audiences).Behaves timeout [])
    (errors : List AuthenticationError) :
    (firstAccepted token audiences members errors).Behaves timeout [] := by
  induction members generalizing errors with
  | nil => unfold firstAccepted; split <;> trivial
  | cons member rest ih =>
    refine (h member List.mem_cons_self).bind fun verdict => ?_
    have others := ih fun a ha => h a (List.mem_cons_of_mem _ ha)
    rcases verdict with e | _ | accepted
    · exact others _
    · exact others _
    · trivial

end TokenAuthenticator

/-- A reader of header fields behaves if what it asks does. -/
theorem RequestAuthenticator.behaves_bearer {timeout : Option UInt64}
    {delegate : TokenAuthenticator Task}
    (h : ∀ token audiences, (delegate token audiences).Behaves timeout [])
    (credentials : Credentials) : (bearer delegate credentials).Behaves timeout [] := by
  unfold bearer
  split
  · trivial
  · trivial
  · exact h _ _

end TokenAuthority
