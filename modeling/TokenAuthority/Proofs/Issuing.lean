/-
# Which tokens are issued

A token that is posted by a caller who may do so is checked, and the first check that fails decides:

| check | if it fails |
| --- | --- |
| the name has at least 32 bytes | 400 |
| it names a client | 400 |
| it names a user | 400 |
| it names the identifier of that user | 400 |
| no token of that name is stored | 409 |
| there is room for another | 500 |

A token that passes is issued: it is stored, with the time filled in, the creation is written into
the audit, and the token is found from then on. If it does not pass, nothing is stored, and the
audit is left alone (`App.posts_decided`).

The name is meant to have 32 characters, but its bytes are counted, which can be more. So a shorter
name can pass that is not in ASCII (`App.short_name_issued`).
-/

import TokenAuthority.Proofs.Addressing
import TokenAuthority.Proofs.Overfilling

namespace TokenAuthority

open Http (Request Response)
open Resource (AccessToken)
open Server (Route)
open Time (Instant)

/-- A text has no more characters than bytes. -/
theorem Text.length_le_byteLength (s : String) : s.length ≤ byteLength s := by
  have all (text : List Char) : text.length ≤ byteLength (String.ofList text) := by
    induction text with
    | nil => exact Nat.zero_le _
    | cons c rest ih =>
      have one := c.utf8Size_pos
      unfold byteLength at ih ⊢
      rw [String.ofList_cons, String.utf8ByteSize_append, String.utf8ByteSize_singleton,
        List.length_cons]
      omega
  have whole := all s.toList
  rwa [String.ofList_toList, String.length_toList] at whole

namespace Resource.AccessToken

/-- What is required of a new token. -/
inductive Requirement where
  | longName
  | client
  | user
  | userUid
deriving DecidableEq

namespace Requirement

/-- All requirements, in the order in which they are checked. -/
def all : List Requirement := [.longName, .client, .user, .userUid]

/-- There is no other requirement. -/
theorem mem_all (r : Requirement) : r ∈ all := by
  cases r <;> decide

/-- Whether a token meets a requirement, if names are measured by some length. -/
def IsMet (length : String → Nat) (token : AccessToken) : Requirement → Prop
  | longName => 32 ≤ length token.metadata.name
  | client => token.clientName ≠ ""
  | user => token.userName ≠ ""
  | userUid => token.userUid ≠ ""

instance (length : String → Nat) (token : AccessToken) (r : Requirement) :
    Decidable (r.IsMet length token) :=
  match r with
  | longName => inferInstanceAs (Decidable (_ ≤ _))
  | client => inferInstanceAs (Decidable (_ ≠ _))
  | user => inferInstanceAs (Decidable (_ ≠ _))
  | userUid => inferInstanceAs (Decidable (_ ≠ _))

/-- What a caller is told whose token does not meet a requirement. -/
def message : Requirement → String
  | longName => "metadata.name: must be at least 32 characters long"
  | client => "clientName: Required value"
  | user => "userName: Required value"
  | userUid => "userUID: Required value"

/-- Requirements are told apart by their messages. -/
theorem message_injective : Function.Injective message := by
  rintro (_ | _ | _ | _) (_ | _ | _ | _) same <;> first | rfl | exact absurd same (by decide)

/-- A requirement is the first that is not met. -/
def IsFirstUnmet (met : Requirement → Prop) (r : Requirement) : Prop :=
  ∃ before after, all = before ++ r :: after ∧ (∀ q ∈ before, met q) ∧ ¬met r

variable {met : Requirement → Prop} {r : Requirement}

/-- The first requirement that is not met is the one that is found. -/
theorem isFirstUnmet_iff [DecidablePred met] :
    IsFirstUnmet met r ↔ all.find? (¬met ·) = some r := by
  rw [List.find?_eq_some_iff_append]
  simp only [decide_eq_true_eq, Bool.not_eq_true', decide_eq_false_iff_not, not_not]
  constructor
  · rintro ⟨before, after, split, earlier, unmet⟩
    exact ⟨unmet, before, after, split, earlier⟩
  · rintro ⟨unmet, before, after, split, earlier⟩
    exact ⟨before, after, split, earlier, unmet⟩

/-- If the name is too short, then this comes first. -/
theorem IsFirstUnmet.eq_longName (unmet : IsFirstUnmet met r) (short : ¬met .longName) :
    r = .longName := by
  obtain ⟨before, after, split, earlier, -⟩ := unmet
  cases before with
  | nil => exact (List.cons.inj split).1.symm
  | cons q rest =>
    obtain ⟨rfl, -⟩ := List.cons.inj split
    exact absurd (earlier _ List.mem_cons_self) short

end Requirement

section Faults

variable {token : AccessToken}

/-- A fault is the first requirement that is not met, by the bytes of the name. -/
theorem fault?_eq_map_find? : Collection.fault? .accessTokens token =
    (Requirement.all.find? (¬Requirement.IsMet Text.byteLength token ·)).map
      Requirement.message := by
  simp only [Collection.fault?, Requirement.all, List.find?_cons, Requirement.IsMet, ← Nat.not_le]
  split_ifs <;> simp_all [Requirement.message]

/-- A token has no fault exactly if it meets all requirements, its name counted in bytes. -/
theorem fault?_eq_none_iff : Collection.fault? .accessTokens token = none ↔
    ∀ r, Requirement.IsMet Text.byteLength token r := by
  rw [fault?_eq_map_find?, Option.map_eq_none_iff, List.find?_eq_none]
  simp [Requirement.mem_all]

/-- The fault of a token is the message of the first requirement that it does not meet. -/
theorem fault?_eq_some_iff {text : String} : Collection.fault? .accessTokens token = some text ↔
    ∃ r, Requirement.IsFirstUnmet (Requirement.IsMet Text.byteLength token) r ∧
      r.message = text := by
  rw [fault?_eq_map_find?, Option.map_eq_some_iff]
  simp only [Requirement.isFirstUnmet_iff]

end Faults

/-- What the post of a token comes to at some time, for a store and for what is required: the token
as it is issued, or the first objection. -/
inductive Decides (met : Requirement → Prop) (store : Store AccessToken) (token : AccessToken)
    (now : Instant) : Except Failure AccessToken → Prop where
  | invalid {r : Requirement} (unmet : r.IsFirstUnmet met) :
      Decides met store token now (.error (.badRequest r.message))
  | taken (valid : ∀ r, met r) (taken : store.find? token.metadata.name ≠ none) :
      Decides met store token now
        (.error (.alreadyExists Resource.accessTokens token.metadata.name))
  | full (valid : ∀ r, met r) (free : store.find? token.metadata.name = none)
      (full : store.capacity ≤ store.size) :
      Decides met store token now (.error
        (.internal (StoreError.capacityExceeded Resource.accessTokens store.capacity).message))
  | issued (valid : ∀ r, met r) (free : store.find? token.metadata.name = none)
      (room : store.size < store.capacity) :
      Decides met store token now (.ok (Operation.filledIn (c := .accessTokens) token now))

namespace Decides

variable {met : Requirement → Prop} {store store' : Store AccessToken} {token : AccessToken}
  {now : Instant} {result : Except Failure AccessToken}

/-- When a token is issued. -/
theorem isOk_iff (decides : Decides met store token now result) :
    (∃ issued, result = .ok issued) ↔
      (∀ r, met r) ∧ store.find? token.metadata.name = none ∧ store.size < store.capacity := by
  have refused (failure : Failure) :
      ¬∃ issued, (.error failure : Except Failure AccessToken) = .ok issued := by
    rintro ⟨issued, same⟩
    cases same
  cases decides with
  | invalid unmet =>
    obtain ⟨before, after, -, -, unmet⟩ := unmet
    exact iff_of_false (refused _) fun ⟨valid, _⟩ => unmet (valid _)
  | taken valid taken => exact iff_of_false (refused _) fun ⟨_, free, _⟩ => taken free
  | full valid free full =>
    exact iff_of_false (refused _) fun ⟨_, _, room⟩ => Nat.not_lt.2 full room
  | issued valid free room => exact iff_of_true ⟨_, rfl⟩ ⟨valid, free, room⟩

/-- A token is issued under the name that was posted. -/
theorem name_of_ok {issued : AccessToken} (decides : Decides met store token now (.ok issued)) :
    Stored.name issued = token.metadata.name := by
  cases decides with
  | issued valid free room => exact Operation.name_filledIn (c := .accessTokens) token now

/-- Of the store it only counts whether the name is free, and how much room there is. -/
theorem congr (decides : Decides met store token now result)
    (free : store'.find? token.metadata.name = none ↔ store.find? token.metadata.name = none)
    (size : store'.size = store.size) (capacity : store'.capacity = store.capacity) :
    Decides met store' token now result := by
  cases decides with
  | invalid unmet => exact .invalid unmet
  | taken valid taken => exact .taken valid fun isFree => taken (free.1 isFree)
  | full valid isFree full =>
    rw [← capacity]
    exact .full valid (free.2 isFree) (by omega)
  | issued valid isFree room => exact .issued valid (free.2 isFree) (by omega)

/-- Counting the characters of the name comes to the same as counting its bytes, unless these are
enough and those are not. -/
theorem length_iff (decides : Decides (Requirement.IsMet Text.byteLength token) store token now
    result) :
    Decides (Requirement.IsMet String.length token) store token now result ↔
      32 ≤ token.metadata.name.length ∨ Text.byteLength token.metadata.name < 32 := by
  have atMost := Text.length_le_byteLength token.metadata.name
  constructor
  · intro decides'
    by_contra between
    have short : ¬Requirement.IsMet String.length token .longName := fun long =>
      between (.inl long)
    have long : Requirement.IsMet Text.byteLength token .longName :=
      Nat.not_lt.1 fun few => between (.inr few)
    -- by characters the name is objected to, and by bytes it is not
    have objection : result = .error (.badRequest Requirement.longName.message) := by
      cases decides' with
      | invalid unmet => rw [unmet.eq_longName short]
      | taken valid taken => exact absurd (valid .longName) short
      | full valid free full => exact absurd (valid .longName) short
      | issued valid free room => exact absurd (valid .longName) short
    cases decides with
    | @invalid r unmet =>
      obtain ⟨-, -, -, -, unmet⟩ := unmet
      have same : r.message = Requirement.longName.message :=
        congrArg Failure.message (Except.error.inj objection)
      obtain rfl := Requirement.message_injective same
      exact unmet long
    | taken valid taken =>
      have same : Reason.alreadyExists = .badRequest :=
        congrArg Failure.reason (Except.error.inj objection)
      cases same
    | full valid free full =>
      have same : Reason.internalError = .badRequest :=
        congrArg Failure.reason (Except.error.inj objection)
      cases same
    | issued valid free room => cases objection
  · intro same
    have alike : Requirement.IsMet String.length token =
        Requirement.IsMet Text.byteLength token := by
      funext r
      cases r with
      | longName => exact propext ⟨fun long => long.trans atMost, fun long => by
          obtain enough | few := same
          · exact enough
          · exact absurd long (Nat.not_le.2 few)⟩
      | client => rfl
      | user => rfl
      | userUid => rfl
    rwa [alike]

end Decides

end Resource.AccessToken

/-! ### Creations -/

/-- What a creation that is worked on alone comes to at some time, and what it leaves. That the name
is taken is told before that there is no room. -/
inductive Backend.Creates {c : Collection} (object : c.Object) (now : Instant) (w w' : World) :
    Except StoreError c.Object → Prop where
  | taken (taken : (w.store c).find? (Stored.name object) ≠ none) (intact : w.Intact w') :
      Creates object now w w'
        (.error (.alreadyExists (Stored.resource c.Object) (Stored.name object)))
  | full (free : (w.store c).find? (Stored.name object) = none)
      (full : (w.store c).capacity ≤ (w.store c).size) (intact : w.Intact w') :
      Creates object now w w'
        (.error (.capacityExceeded (Stored.resource c.Object) (w.store c).capacity))
  | created (free : (w.store c).find? (Stored.name object) = none)
      (room : (w.store c).size < (w.store c).capacity)
      (put : (w.withStore c ((w.store c).put (Stored.stamp object now))).Intact w') :
      Creates object now w w' (.ok (Stored.stamp object now))

/-- **The creation of an object with a name** has one of three results, at the time it reads. -/
theorem Backend.creates_of_ends {c : Collection} {object : c.Object}
    (named : Stored.name object ≠ "") {w w' : World} {heard : List Exchange}
    {outcome : Option (Except StoreError c.Object)}
    (ends : (create c object : Task _).Ends w heard outcome w') :
    ∃ now result, outcome = some result ∧ Exchange.Reads heard now ∧
      Creates object now w w' result := by
  unfold create at ends
  rw [if_neg named] at ends
  obtain ⟨now, w₁, later, rfl, same, read⟩ := Task.Ends.of_quiet rfl ends
  obtain ⟨clock, last, rfl, asked⟩ := read.of_call
  rw [World.perform_checkRoom] at asked
  have ticked := same.trans (World.Intact.tick w₁ clock)
  rw [ticked.stores c, Stored.name_stamp] at asked
  -- the insertion finds the name as it was
  have seen (clock' : Instant) : (World.store { w₁ with clock := clock' } c).find?
      (Stored.name (Stored.stamp object now)) = (w.store c).find? (Stored.name object) := by
    rw [Stored.name_stamp]
    exact (same.trans (World.Intact.tick w₁ clock')).stores.find? c _
  cases found : (w.store c).find? (Stored.name object) with
  | some old =>
    rw [Store.perform_checkRoom_eq_ok_iff.2 (.inr (by rw [found]; rfl))] at asked
    obtain ⟨clock', last, -, made⟩ := Task.Ends.of_call asked
    rw [World.perform_insert_of_taken ((seen clock').trans found), Stored.name_stamp] at made
    obtain ⟨-, rfl, -⟩ := made.of_done
    have intact := (same.trans (World.Intact.tick w₁ clock')).trans (made.intact trivial)
    exact ⟨now, _, rfl, List.mem_cons_self, .taken (by rw [found]; nofun) intact⟩
  | none =>
    by_cases full : (w.store c).capacity ≤ (w.store c).size
    · rw [Store.perform_checkRoom_of_full full found] at asked
      obtain ⟨-, rfl, -⟩ := asked.of_done
      exact ⟨now, _, rfl, List.mem_cons_self,
        .full found full (ticked.trans (asked.intact trivial))⟩
    · have room := Nat.not_le.1 full
      rw [Store.perform_checkRoom_eq_ok_iff.2 (.inl room)] at asked
      obtain ⟨clock', last, -, made⟩ := Task.Ends.of_call asked
      rw [World.perform_insert_of_free ((seen clock').trans found)] at made
      obtain ⟨-, rfl, -⟩ := made.of_done
      have put := (same.trans (World.Intact.tick w₁ clock')).withStore c
        (·.put (Stored.stamp object now))
      exact ⟨now, _, rfl, List.mem_cons_self, .created found room
        (put.trans (made.intact trivial))⟩

/-- Tasks do not change the capacity of a store. -/
theorem Task.Ends.capacity {α : Type} {t : Task α} {w w' : World} {heard : List Exchange}
    {outcome : Option α} (ends : t.Ends w heard outcome w') (c : Collection) :
    (w'.store c).capacity = (w.store c).capacity := by
  induction ends with
  | done a w => rfl
  | abandoned w => rfl
  | @tick t w w' heard outcome clock ends ih => rw [ih, w.sameStores_tick clock c]
  | call ends ih => rw [ih, World.capacity_perform]

/-- Notes of uses leave the size of a store. -/
theorem World.SameUpTo.size {noted : String → Prop} {w w' : World} (h : w.SameUpTo noted w')
    (c : Collection) : (w'.store c).size = (w.store c).size := by
  rw [← Store.card_contents, ← Store.card_contents, h.keys]

/-- Whichever plugins the settings enable, they let objects be created, without a remark. -/
theorem Admission.validate_creating (s : Settings) (c : Collection) (caller : Identity)
    (object : c.Object) :
    (validate (App.enabledPlugins s) (.creating c caller object) : Task _) =
      .done (.creating c caller object, .ok ()) := by
  unfold App.enabledPlugins
  split <;> rfl

namespace App

open Resource.AccessToken (Decides Requirement)

/-- How the post of a token is answered that came to some result. -/
def issueResponse : Except Failure AccessToken → Response
  | .error failure => .ofFailure failure
  | .ok issued => .json 201 issued.toJson

/-- A post is answered 201 exactly if a token was issued. -/
theorem status_issueResponse_iff {result : Except Failure AccessToken} :
    (issueResponse result).status = 201 ↔ ∃ issued, result = .ok issued := by
  cases result with
  | ok issued => exact iff_of_true rfl ⟨issued, rfl⟩
  | error failure =>
    refine iff_of_false (Response.status_ofFailure_ne failure) ?_
    rintro ⟨issued, same⟩
    cases same

/-- What a post of a token leaves that came to some result: if it was refused, what there was, and
if a token was issued, this token and the event besides. -/
inductive Leaves (noted : String → Prop) (w w' : World) (event : AuditEvent) :
    Except Failure AccessToken → Prop where
  | refused {failure : Failure} (upTo : w.SameUpTo noted w') (audits : w'.audits = w.audits) :
      Leaves noted w w' event (.error failure)
  | issued {issued : AccessToken}
      (upTo : (w.withStore .accessTokens (w.accessTokens.put issued)).SameUpTo noted w')
      (found : w'.accessTokens.find? (Stored.name issued) = some issued)
      (audits : w'.audits = w.audits ++ [event]) : Leaves noted w w' event (.ok issued)

/-- What was noted before makes no difference. -/
theorem Leaves.after {noted : String → Prop} {w w₁ w' : World} {event : AuditEvent}
    {result : Except Failure AccessToken} (leaves : Leaves noted w₁ w' event result)
    (upTo : w.SameUpTo noted w₁) (audits : w₁.audits = w.audits) :
    Leaves noted w w' event result := by
  cases leaves with
  | refused upTo' audits' => exact .refused (upTo.trans upTo') (audits'.trans audits)
  | issued upTo' found audits' =>
    exact .issued ((upTo.put .accessTokens _).trans upTo') found (by rw [audits', audits])

section Posts

variable {app : App Task} {timeout : Option UInt64} {w w' : World} {heard : List Exchange}
  {outcome : Option Response} {token : AccessToken} {caller : Identity}

/-- A token with a fault is refused with its message, and nothing else is done. -/
theorem create_of_fault {request : Request} {text : String}
    (body : Server.readBody AccessToken.record request = .ok token)
    (faulty : Collection.fault? .accessTokens token = some text) :
    app.create .accessTokens caller request = .done (.ofFailure (.badRequest text)) := by
  unfold create
  rw [show Server.readBody Collection.accessTokens.record request = .ok token from body]
  dsimp only
  rw [faulty]
  rfl

/-- What is answered at once changes nothing. -/
theorem intact_of_answered {response : Response}
    (ends : (Task.done response).Ends w heard outcome w') :
    w.Intact w' ∧ outcome = some response :=
  ⟨ends.intact trivial, ends.of_done.2.1⟩

/-- **A token that is posted is issued, or refused with the first objection.** -/
theorem ends_create_accessTokens {s : Settings} (plugins : app.admission = enabledPlugins s)
    {request : Request} (body : Server.readBody AccessToken.record request = .ok token)
    (ends : (app.create .accessTokens caller request).Ends w heard outcome w')
    (noted : String → Prop) :
    ∃ now result,
      Decides (Requirement.IsMet Text.byteLength token) w.accessTokens token now result ∧
      outcome = some (issueResponse result) ∧
      (∀ issued, result = .ok issued → Exchange.Reads heard now) ∧
      Leaves noted w w'
        ((Admission.Change.creating .accessTokens caller token).auditEvent "create" 201)
        result := by
  cases faulty : Collection.fault? .accessTokens token with
  | some text =>
    rw [create_of_fault body faulty] at ends
    obtain ⟨r, unmet, rfl⟩ := Resource.AccessToken.fault?_eq_some_iff.1 faulty
    obtain ⟨⟨stores, audits⟩, rfl⟩ := intact_of_answered ends
    exact ⟨.epoch, _, .invalid unmet, rfl, fun _ same => (nomatch same),
      .refused stores.sameUpTo audits⟩
  | none =>
    have valid := Resource.AccessToken.fault?_eq_none_iff.1 faulty
    have named : Stored.name token ≠ "" := (Collection.isSound_of_fault? faulty).named
    rw [create_of_admitted body faulty (plugins ▸ Admission.validate_creating s _ _ _)] at ends
    obtain ⟨stored, before, after, w₁, rfl, first, second⟩ | ⟨-, first⟩ := ends.of_bind
    · obtain ⟨now, result, is, reads, creates⟩ :=
        Backend.creates_of_ends (c := .accessTokens) named first
      obtain rfl := Option.some.inj is
      cases creates with
      | taken taken intact =>
        obtain ⟨told, rfl⟩ := intact_of_answered second
        obtain ⟨stores, audits⟩ := intact.trans told
        exact ⟨now, _, .taken valid taken, rfl, fun _ same => (nomatch same),
          .refused stores.sameUpTo audits⟩
      | full free full intact =>
        obtain ⟨told, rfl⟩ := intact_of_answered second
        obtain ⟨stores, audits⟩ := intact.trans told
        exact ⟨now, _, .full valid free full, rfl, fun _ same => (nomatch same),
          .refused stores.sameUpTo audits⟩
      | created free room put =>
        obtain ⟨stores, audits, rfl⟩ := ends_audit second
        have kept := put.stores.trans stores
        rw [put.audits, World.audits_withStore] at audits
        have issued : Decides _ _ token now _ := .issued valid free room
        rw [Operation.filledIn_eq_stamp] at issued
        refine ⟨now, _, issued, rfl, fun _ _ => List.mem_append_left _ reads,
          .issued kept.sameUpTo ?_ audits⟩
        refine (kept.find? .accessTokens _).trans ?_
        rw [World.store_withStore, Store.find?_put, if_pos rfl]
    · obtain ⟨now, result, is, -⟩ := Backend.creates_of_ends (c := .accessTokens) named first
      cases is

/-- What was found once is got later, until it is deleted. -/
theorem answers_get_later (parts : app.PartsNote timeout) {turns : List Turn} {turn : Turn}
    {w₁ w₂ : World} {c : Collection} {name path : String} {object : c.Object}
    (found : (w.store c).find? name = some object) (history : app.History w turns w₁)
    (lasts : c = .accessTokens → ∀ turn ∈ turns, ¬turn.Deletes name)
    (takes : app.Takes w₁ turn w₂) (asks : turn.Asks app "GET" path)
    (isPath : c.IsPathOf name path) (named : name ≠ "") :
    ∃ later, c.IsUsed (timeout ≠ none ∧ ∃ user ∈ turns ++ [turn], user.Uses app name) object later ∧
      turn.Answers 200 (c.toJson later) := by
  obtain ⟨kept, foundKept, isUsed⟩ := history.exists_find? parts found lasts
  obtain ⟨later, isUsed', answers⟩ := answers_get parts takes asks isPath named foundKept
  refine ⟨later, (isUsed.trans isUsed').mono ?_, answers⟩
  rintro (⟨limited, user, mem, uses⟩ | ⟨limited, uses⟩)
  · exact ⟨limited, user, List.mem_append_left _ mem, uses⟩
  · exact ⟨limited, turn, List.mem_append_right _ (List.mem_singleton_self _), uses⟩

/-- The response to a post is sent as it is. -/
theorem finish_issueResponse (result : Except Failure AccessToken) :
    finish .accessTokens "POST" (issueResponse result) = issueResponse result := by
  cases result <;> rfl

end Posts

/-- **A post of a token is decided by its checks, in order.** Let an application be assembled from
any settings, and let a caller who may do so post a token, in any world. Then the request is
answered, and with 201 if and only if the token meets all requirements, its name is free, and there
is room for it; otherwise the answer is 400 with the first requirement that it does not meet, or
else 409 if the name is taken, or else 500.

If the answer is 201, then the token that is answered is the one that was posted, with the time of
the request filled in unless it carries one; it is stored, the creation is in the audit, and until
it is deleted, a `GET` of any path of it is answered with it, but for the note of its last use. With
any other answer nothing is stored, and nothing is added to the audit.

The name is measured in bytes. To measure it in characters would come to the same, unless these are
fewer than 32 and those are not. -/
theorem posts_decided {s : Settings} {tokens : List StaticToken} {policy : List PolicyRule}
    {post : Webhook.Transport Task} {configuration : String → ExceptT String Task (Option String)}
    {app : App Task} {w₀ w₀' : World}
    (assembled : (assemble s tokens policy post configuration).run w₀ = (some (.ok app), w₀'))
    (inert : ∀ url seconds review, ∃ reply, post url seconds review = .done reply)
    {token : AccessToken} {turn : Turn} {w w' : World} (takes : app.Takes w turn w')
    (posts : Posts turn.request token)
    (allowed : ∃ caller, app.LetsThrough turn.request turn.heard caller) :
    let name := token.metadata.name
    let limited := s.authentication.inactivityTimeout ≠ none
    ∃ caller now result, app.LetsThrough turn.request turn.heard caller ∧
      Decides (Requirement.IsMet Text.byteLength token) w.accessTokens token now result ∧
      turn.outcome = some (issueResponse result) ∧
      (turn.outcome.map (·.status) = some 201 ↔
        (∀ r, Requirement.IsMet Text.byteLength token r) ∧ w.accessTokens.find? name = none ∧
          w.accessTokens.size < w.accessTokens.capacity) ∧
      Leaves (fun name => limited ∧ app.Uses turn.request turn.heard name) w w'
        ((Admission.Change.creating .accessTokens caller token).auditEvent "create" 201) result ∧
      (∀ issued, result = .ok issued → Exchange.Reads turn.heard now ∧
        ∀ path, Collection.accessTokens.IsPathOf name path →
          ∀ others w₁, app.History w' others w₁ → (∀ turn ∈ others, ¬turn.Deletes name) →
            ∀ get w₂, app.Takes w₁ get w₂ → get.Asks app "GET" path →
              ∃ later, Collection.accessTokens.IsUsed
                  (limited ∧ ∃ user ∈ others ++ [get], user.Uses app name) issued later ∧
                get.Answers 200 later.toJson) ∧
      (Decides (Requirement.IsMet String.length token) w.accessTokens token now result ↔
        32 ≤ name.length ∨ Text.byteLength name < 32) := by
  intro name limited
  have parts := partsNote_of_assemble assembled inert
  obtain ⟨review, rfl, -⟩ := exists_parts_of_assemble assembled
  obtain ⟨permitted, lets⟩ := allowed
  cases course_of_ends_answer parts takes with
  | refused denied upTo audits unsuccessful => exact absurd lets (denied _ posts.route permitted)
  | @served route caller w₁ before after answer matched split passed upTo audits served told =>
    obtain rfl : route = .accessTokens := Option.some.inj (matched.symm.trans posts.route)
    have capacity : w.accessTokens.capacity = w₁.accessTokens.capacity :=
      (takes.capacity .accessTokens).symm.trans (served.capacity .accessTokens)
    rw [dispatch_of_posts posts] at served
    obtain ⟨now, result, decides, rfl, reads, leaves⟩ :=
      ends_create_accessTokens rfl posts.body served _
    -- the filters keep the names and the room, so that the same is decided
    have decides : Decides (Requirement.IsMet Text.byteLength token) w.accessTokens token now
        result :=
      decides.congr (upTo.find?_eq_none_iff .accessTokens name).symm
        (upTo.size .accessTokens).symm capacity
    have answered : turn.outcome = some (issueResponse result) := by
      rw [told, posts.method, Option.map_some, finish_issueResponse]
    refine ⟨caller, now, result, ⟨before, after, split, passed rfl⟩, decides, answered, ?_,
      leaves.after upTo audits, ?_, decides.length_iff⟩
    · rw [answered, Option.map_some, Option.some.injEq, status_issueResponse_iff,
        decides.isOk_iff]
    · rintro issued rfl
      have heard : Exchange.Reads turn.heard now := by
        rw [Exchange.Reads, split]
        exact List.mem_append_right _ (reads issued rfl)
      refine ⟨heard, fun path isPath others w₂ history lasts get w₃ takes asks => ?_⟩
      obtain ⟨valid, -, -⟩ := decides.isOk_iff.1 ⟨issued, rfl⟩
      have named : name ≠ "" :=
        (Collection.isSound_of_fault? (Resource.AccessToken.fault?_eq_none_iff.2 valid)).named
      cases leaves with
      | issued _ found _ =>
        rw [decides.name_of_ok] at found
        exact answers_get_later parts found history (fun _ => lasts) takes asks isPath named

/-- The hypotheses of `posts_decided` are satisfiable: in a store with a single place a token is
issued. -/
theorem posts_decided_one_place :
    let name := "0123456789abcdef0123456789abcdef"
    let app := selfContained {} [.admin] [.adminCreates]
    let w : World := ⟨.epoch, { capacity := 1 }, { capacity := 1 }, []⟩
    ∃ posted, (app.answer (.postToken name none 60)).run w = posted ∧
      posted.1.map (·.status) = some 201 ∧ posted.2.accessTokens.find? name ≠ none ∧
      posted.2.audits.map (·.name) = [name] := by
  intro name app w
  let request := Request.postToken name none 60
  let token : AccessToken := {
    metadata := { name }, clientName := "c", userName := "alice", userUid := "u1", expiresIn := 60 }
  obtain ⟨w₀', assembled⟩ := run_assemble_selfContained (s := {}) rfl (by decide +kernel)
    [.admin] [.adminCreates] (fun _ _ _ => .done none) w
  have posts : Posts request token := ⟨by decide, rfl, by decide +kernel⟩
  have permits : Route.accessTokens.Permits [.adminCreates] request.method
      StaticToken.admin.identity :=
    .inr ⟨_, List.mem_singleton_self _, .inl (.inr (by decide)), .inr (by decide),
      .inl (by decide), .inl (by decide)⟩
  have bearer : (Http.Header.first? request.headers Bearer.fieldName).bind
      (Bearer.token? ·.value) = some "secret".toList := by decide +kernel
  have listed : StaticToken.lookup? [.admin] (String.ofList "secret".toList) = some .admin := by
    decide
  have screened : app.screen request = .done (.ok StaticToken.admin.identity) :=
    screen_of_static posts.route rfl bearer listed permits
  obtain ⟨posted, ran⟩ : ∃ posted, (app.answer request).run w = posted := ⟨_, rfl⟩
  obtain ⟨heard, ends⟩ := Task.exists_ends_of_run ran
  have takes : app.Takes w ⟨request, heard, posted.1⟩ posted.2 := ends
  have lets : app.LetsThrough request heard StaticToken.admin.identity :=
    ⟨[], heard, rfl, by rw [screened]; exact .nothing _⟩
  obtain ⟨caller, now, result, -, decides, answered, created, leaves, -, -⟩ :=
    posts_decided assembled (fun _ _ _ => ⟨_, rfl⟩) takes posts ⟨_, lets⟩
  have valid (r : Requirement) : Requirement.IsMet Text.byteLength token r := by
    cases r <;> decide
  have conditions := And.intro valid (And.intro (show w.accessTokens.find? name = none from rfl)
    (show w.accessTokens.size < w.accessTokens.capacity by decide))
  obtain ⟨issued, rfl⟩ := decides.isOk_iff.2 conditions
  cases leaves with
  | issued _ found audits =>
    rw [decides.name_of_ok] at found
    refine ⟨posted, ran, created.2 conditions, fun missing => ?_, ?_⟩
    · exact absurd (found.symm.trans missing) nofun
    · rw [audits]
      rfl

/-- A name of 16 characters is taken for one of 32, as each of them has two bytes. -/
theorem short_name_issued :
    let name := "éééééééééééééééé"
    let app := selfContained {} [.admin] [.adminCreates]
    let posted := (app.answer (.postToken name none 60)).run (World.ofSettings {} .epoch)
    name.length = 16 ∧ posted.1.map (·.status) = some 201 := by
  decide +kernel

end App

end TokenAuthority
