/-
# Whose token was deleted

A deletion makes three calls that matter here, and other requests may make theirs in between:

| call | what it has to do with |
| --- | --- |
| the token of the name is looked up | admission notes its owner for the audit |
| the token of the name is removed | it is the one that was last put in (`Event.lastPut`) |
| the audit is told | of the first token's owner |

So the audit tells the owner of what was removed exactly if that is also the owner of what was
looked up (`Pool.Run.audited_owner`). It need not be: the token may be deleted and one of someone
else be created in its place between the two calls (`Pool.Run.misattributed`).
-/

import TokenAuthority.Proofs.Addressing
import TokenAuthority.Proofs.Calls
import TokenAuthority.Proofs.Lifetimes
import TokenAuthority.Proofs.Overwriting

namespace TokenAuthority

open Http (Request Response)
open Resource (AccessToken)
open Server (Route)

/-! ### What was last put in -/

namespace Event

variable {ι : Type} {name : String}

/-- The token of a name that is put in, new or in the place of another. -/
def put? (name : String) : Event ι → Option AccessToken
  | .exchange _ ⟨.store .accessTokens (.insert object), .ok _⟩ =>
    if Stored.name object = name then some object else none
  | .exchange _ ⟨.store .accessTokens (.replace object), .ok _⟩ =>
    if Stored.name object = name then some object else none
  | _ => none

/-- The token of a name that was last put in, where there was one at the beginning. -/
def lastPut (name : String) (first : Option AccessToken) : List (Event ι) → Option AccessToken
  | [] => first
  | e :: es => lastPut name ((e.put? name).or first) es

/-- What was last put in was there at the beginning, or some event has put it in. -/
theorem of_lastPut {first : Option AccessToken} {es : List (Event ι)} {token : AccessToken}
    (last : lastPut name first es = some token) :
    first = some token ∨ ∃ e ∈ es, e.put? name = some token := by
  induction es generalizing first with
  | nil => exact .inl last
  | cons e es ih =>
    obtain now | ⟨e', mem, put⟩ := ih last
    · cases put : e.put? name with
      | some token' =>
        rw [put] at now
        obtain rfl := Option.some.inj now
        exact .inr ⟨e, List.mem_cons_self, put⟩
      | none =>
        rw [put, Option.none_or] at now
        exact .inl now
    · exact .inr ⟨e', List.mem_cons_of_mem _ mem, put⟩

end Event

open Event (lastPut)

namespace Pool

variable {ι α : Type} [DecidableEq ι] {s s' : Pool ι α} {name : String} {token : AccessToken}

/-- A token that was put in is stored. -/
theorem Step.find?_of_put? {e : Event ι} (step : Step s e s') (put : e.put? name = some token) :
    s'.world.accessTokens.find? name = some token := by
  unfold Event.put? at put
  split at put
  · obtain ⟨rfl, isToken⟩ := Option.ite_none_right_eq_some.1 put
    exact step.find?_of_inserted.trans isToken
  · obtain ⟨rfl, isToken⟩ := Option.ite_none_right_eq_some.1 put
    exact step.find?_of_replaced.trans isToken
  · cases put

/-- What is stored under a name was just put in, or was there before. -/
theorem Step.put?_or {e : Event ι} (step : Step s e s') {first : Option AccessToken}
    (begins : ∀ stored, s.world.accessTokens.find? name = some stored → first = some stored)
    (found : s'.world.accessTokens.find? name = some token) :
    (e.put? name).or first = some token := by
  cases put : e.put? name with
  | some token' => exact (step.find?_of_put? put).symm.trans found
  | none =>
    rw [Option.none_or]
    obtain created | ⟨-, old | ⟨i, named, answer, rfl⟩⟩ := step.of_find? found
    · obtain ⟨i, object, stored, rfl, named⟩ :
          ∃ i object stored, e = .exchange i ⟨.store .accessTokens (.insert object), .ok stored⟩ ∧
            Stored.name object = name := by
        unfold Event.created? at created
        split at created
        · exact ⟨_, _, _, rfl, (Option.ite_none_right_eq_some.1 created).1⟩
        · cases created
      cases (if_pos named).symm.trans put
    · exact begins token old
    · cases (if_pos named).symm.trans put

/-- **What is stored under a name is what was last put in.** -/
theorem Run.lastPut_eq {es : List (Event ι)} (run : Run s es s') {first : Option AccessToken}
    (begins : ∀ stored, s.world.accessTokens.find? name = some stored → first = some stored)
    (found : s'.world.accessTokens.find? name = some token) :
    lastPut name first es = some token := by
  induction run generalizing first with
  | nil s => exact begins token found
  | cons step run ih => exact ih (fun stored found => step.put?_or begins found) found

/-- What is removed was there before. -/
theorem Step.found_of_removed {c : Collection} {i : ι} {object : c.Object}
    (step : Step s (.exchange i ⟨.store c (.remove name), .ok object⟩) s') :
    (s.world.store c).find? name = some object := by
  obtain ⟨-, answer, -⟩ := step.calls
  cases present : (s.world.store c).find? name with
  | none =>
    rw [World.perform, Store.perform_remove_of_missing present] at answer
    cases answer
  | some old =>
    rw [World.perform, Store.perform_remove_of_found present] at answer
    cases answer
    rfl

/-- What is removed is what was last put in since it was found. -/
theorem Run.lastPut_of_removed {i j : ι} {between later : List (Event ι)} {found : AccessToken}
    (run : Run s (.exchange i ⟨.store .accessTokens (.find name), some found⟩ ::
      (between ++ .exchange j ⟨.store .accessTokens (.remove name), .ok token⟩ :: later)) s') :
    lastPut name (some found) between = some token := by
  cases run with
  | @cons _ s₁ _ _ _ look run =>
    obtain ⟨s₂, run₁, run₂⟩ := run.of_append
    cases run₂ with
    | cons remove run₂ =>
      refine run₁.lastPut_eq (fun stored present => ?_) remove.found_of_removed
      obtain ⟨-, answer, world⟩ := look.calls
      rw [world] at present
      exact answer.trans present

end Pool

/-! ### What is audited -/

namespace Pool

variable {ι : Type} [DecidableEq ι] {s₀ s : Pool ι Response} {es : List (Event ι)} {i : ι}
  {request : Request}

/-- A request removes one token at most. -/
theorem Run.removes_once {app : App Task} {timeout : Option UInt64}
    (parts : app.PartsNote timeout) (run : Run s₀ es s) (begins : s₀.tasks i = app.answer request)
    {before after : List (Event ι)} {name : String} {answer : Except StoreError AccessToken}
    (split : es = before ++ .exchange i ⟨.store .accessTokens (.remove name), answer⟩ :: after)
    (name' : String) (answer' : Except StoreError AccessToken) :
    .exchange i ⟨.store .accessTokens (.remove name'), answer'⟩ ∉ before ++ after := by
  -- what is called before a removal is none
  have first {before after : List (Event ι)} {x y : Exchange}
      (split : es = before ++ .exchange i x :: after) (mem : .exchange i y ∈ before)
      (isRemoval : ∃ name, x.call = .store .accessTokens (.remove name)) :
      y.call.usesAtMost = true := by
    obtain ⟨name, isRemoval⟩ := isRemoval
    have may := run.wanted (begins ▸ App.makes_answer parts request) split
    rw [isRemoval] at may
    cases may with
    | use uses => cases uses
    | remove name first => exact first y (List.mem_reverse.2 (mem_dialogue.2 mem))
  intro mem
  rcases List.mem_append.1 mem with earlier | later
  · cases first split earlier ⟨name, rfl⟩
  · obtain ⟨between, rest, rfl⟩ := List.append_of_mem later
    rw [← List.cons_append, ← List.append_assoc] at split
    cases first split (List.mem_append_right _ List.mem_cons_self) ⟨name', rfl⟩

/-- **The audited owner is that of the token that was looked up.** Let an application be assembled
with the plugin of this library, and let any number of requests, of whatever kind, make their calls
in any order. If one of them tells the audit of the deletion of a token, then it has looked a token
up under the name, and later removed one, its only one; the audit tells the owner of the former. The
latter is the one that was last put in under the name by then, be it new or with the note of a use,
or else the one that was looked up. So if whatever is put in under the name between the two calls
has the same owner, and in particular if nothing is, then the audit tells the owner of the token
that was removed. -/
theorem Run.audited_owner {settings : Settings} {tokens : List StaticToken}
    {policy : List PolicyRule} {post : Webhook.Transport Task}
    {configuration : String → ExceptT String Task (Option String)} {app : App Task} {w w' : World}
    (assembled : (App.assemble settings tokens policy post configuration).run w =
      (some (.ok app), w'))
    (inert : ∀ url seconds review, ∃ reply, post url seconds review = .done reply)
    (enabled : Admission.AuditLogouts.name ∈ settings.admission.pluginNames)
    (run : Run s₀ es s) (begins : s₀.tasks i = app.answer request)
    {before after : List (Event ι)} {event : AuditEvent}
    (split : es = before ++ .exchange i ⟨.record (.audit event), ()⟩ :: after)
    (deletion : event.verb = "delete") :
    ∃ earlier found between deleted later,
      before = earlier ++ .exchange i ⟨.store .accessTokens (.find event.name), some found⟩ ::
        (between ++ .exchange i ⟨.store .accessTokens (.remove event.name), .ok deleted⟩ ::
          later) ∧
      (∀ removed answer, .exchange i ⟨.store .accessTokens (.remove removed), answer⟩ ∉
        earlier ++ (between ++ (later ++ after))) ∧
      event.annotations.find? Admission.AuditLogouts.ownerKey = some found.userName ∧
      lastPut event.name (some found) between = some deleted ∧
      ((∀ e ∈ between, ∀ token, e.put? event.name = some token →
          token.userName = found.userName) →
        event.annotations.find? Admission.AuditLogouts.ownerKey = some deleted.userName) := by
  have parts := App.partsNote_of_assemble assembled inert
  have plugins : app.admission = [Admission.AuditLogouts.plugin] := by
    obtain ⟨review, rfl, -⟩ := App.exists_parts_of_assemble assembled
    exact if_pos enabled
  have may := run.wanted (begins ▸ App.makes_answer parts request) split
  dsimp only at may
  cases may with
  | use uses => cases uses
  | creation verb => exact absurd (verb.symm.trans deletion) (by decide)
  | @deletion caller name found deleted noted earlier between later heard admitted =>
    rw [plugins, Admission.AuditLogouts.validate_deleting] at admitted
    obtain rfl : noted = .deleted caller name found := by
      generalize between.reverse = heard at admitted
      cases admitted with
      | heard admitted =>
        cases admitted
        rfl
    have dialogue : dialogue i before =
        earlier.reverse ++ ⟨.store .accessTokens (.find name), some found⟩ ::
          (between.reverse ++ ⟨.store .accessTokens (.remove name), .ok deleted⟩ ::
            later.reverse) := by
      rw [List.reverse_eq_iff.1 heard]
      simp
    obtain ⟨first, rest, rfl, -, others⟩ := exists_of_dialogue dialogue
    obtain ⟨second, third, rfl, -, -⟩ := exists_of_dialogue others
    obtain ⟨s₁, run₁, -⟩ := (split ▸ run).of_append
    obtain ⟨s₂, -, run₂⟩ := run₁.of_append
    have last := run₂.lastPut_of_removed
    have owner : (Admission.Change.deleted caller name found).annotations.find?
        Admission.AuditLogouts.ownerKey = some found.userName := by
      unfold Admission.Change.deleted Admission.Change.note
      rfl
    refine ⟨first, found, second, deleted, third, rfl, ?_, owner, last, fun same => ?_⟩
    · intro removed answer mem
      rw [List.append_assoc, List.cons_append, List.append_assoc, List.cons_append,
        ← List.cons_append, ← List.append_assoc] at split
      refine run.removes_once parts begins split removed answer ?_
      simp only [List.mem_append, List.mem_cons] at mem ⊢
      tauto
    obtain isFound | ⟨e, mem, put⟩ := Event.of_lastPut last
    · obtain rfl := Option.some.inj isFound
      exact owner
    · rw [same e mem deleted put]
      exact owner

/-! ### A token that is deleted twice -/

/-- The name of the tokens here. -/
def sharedName : String := "0123456789abcdef0123456789abcdef"

/-- A token of someone. -/
def tokenHeldBy (userName : String) (created : Option Time.Instant) : AccessToken where
  metadata := { name := sharedName, created }
  clientName := "c"
  userName := userName
  userUid := "u1"
  expiresIn := 60

/-- The requests: the token of the name is deleted twice, and one of `alice` is posted. -/
def rivals : Fin 3 → Request :=
  let delete := Request.ofAdmin "DELETE"
    ("/apis/oauth.openshift.io/v1/oauthaccesstokens/" ++ sharedName)
  ![delete, delete, .postToken sharedName none 60]

/-- The application that they are made to. -/
def rivalsApp : App Task := App.selfContained {} [.admin] [.adminRules]

/-- They are made when a token of `bob` is stored. -/
def contention : Pool (Fin 3) Response where
  world := {
    clock := .epoch
    accessTokens := Store.put { capacity := 9 } (tokenHeldBy "bob" (some .epoch))
    users := { capacity := 9 } }
  tasks i := rivalsApp.answer (rivals i)

/-- What is left of a deletion once its caller is known. -/
def deletion : Task Response :=
  (rivalsApp.deleteAccessToken StaticToken.admin.identity sharedName).bind fun response =>
    .done (App.finish (.accessToken sharedName) "DELETE" response)

/-- What is left of the post. -/
def creation : Task Response :=
  (Backend.create .accessTokens (tokenHeldBy "alice" none) : Task _).bind (App.concludePost
    (.creating .accessTokens StaticToken.admin.identity (tokenHeldBy "alice" none)))

/-- Whoever may do so is let through, so that this is what they go on with. -/
theorem contention_eq :
    contention = { contention with tasks := ![deletion, deletion, creation] } := by
  have deletes : rivalsApp.answer (rivals 0) = deletion := by
    have matched : Route.ofPath (rivals 0).path = some (.accessToken sharedName) := by decide
    have screened : rivalsApp.screen (rivals 0) = .done (.ok StaticToken.admin.identity) :=
      App.screen_ofAdmin matched rfl
    have decoded : Http.Percent.decodeText? sharedName = some sharedName := by
      decide +kernel
    rw [App.answer_eq _ matched rfl, screened, Task.done_bind]
    dsimp only
    rw [App.dispatch_delete _ decoded rfl]
    rfl
  have posts : rivalsApp.answer (rivals 2) = creation := by
    have posts : Posts (rivals 2) (tokenHeldBy "alice" none) :=
      ⟨by decide, rfl, by decide +kernel⟩
    have permits : Route.accessTokens.Permits [.adminRules] (rivals 2).method
        StaticToken.admin.identity :=
      .inr ⟨_, List.mem_singleton_self _, .inl (.inr (by decide)), .inl (by decide),
        .inl (by decide), .inl (by decide)⟩
    have bearer : (Http.Header.first? (rivals 2).headers Bearer.fieldName).bind
        (Bearer.token? ·.value) = some "secret".toList := by decide +kernel
    have screened : rivalsApp.screen (rivals 2) = .done (.ok StaticToken.admin.identity) :=
      App.screen_of_static posts.route rfl bearer (by decide) permits
    exact App.answer_of_posts posts screened (by decide +kernel) rfl
  unfold contention
  congr 1
  funext i
  match i with
  | 0 => exact deletes
  | 1 => exact deletes
  | 2 => exact posts

/-- What is written down when a token is removed after another was found. -/
def deletionEvent (found : AccessToken) : AuditEvent :=
  (Admission.Change.deleted StaticToken.admin.identity sharedName found).auditEvent "delete" 200

/-- The hypotheses of `audited_owner` are satisfiable: without the others, a deletion tells the
owner of the token that it removes. -/
theorem Run.audited_owner_alone :
    ∃ es s event deleted, Run contention es s ∧
      .exchange 0 ⟨.store .accessTokens (.remove sharedName), .ok deleted⟩ ∈ es ∧
      .exchange 0 ⟨.record (.audit event), ()⟩ ∈ es ∧
      event.annotations.find? Admission.AuditLogouts.ownerKey = some deleted.userName := by
  obtain ⟨w', assembled⟩ := App.run_assemble_selfContained (s := {}) rfl (by decide +kernel)
    [.admin] [.adminRules] (fun _ _ _ => .done none) contention.world
  let bob := tokenHeldBy "bob" (some .epoch)
  let before : List (Event (Fin 3)) := [
    .exchange 0 ⟨.store .accessTokens (.find sharedName), some bob⟩,
    .exchange 0 ⟨.record (.message .info "deletion of oauthaccesstoken for user bob"), ()⟩,
    .exchange 0 ⟨.store .accessTokens (.remove sharedName), .ok bob⟩,
    .exchange 0 ⟨.record (.message .info
      ("Deleted oauthaccesstoken " ++ sharedName ++ " of user bob")), ()⟩]
  let es := before ++ [.exchange 0 ⟨.record (.audit (deletionEvent bob)), ()⟩]
  obtain ⟨s, run⟩ : ∃ s, Run contention es s := by
    rw [contention_eq]
    exact ⟨_, .cons (.exchange rfl) (.cons (.exchange rfl) (.cons (.exchange rfl)
      (.cons (.exchange rfl) (.cons (.exchange rfl) (.nil _)))))⟩
  have begins : contention.tasks 0 = rivalsApp.answer (rivals 0) := rfl
  obtain ⟨earlier, found, between, deleted, later, split, -, -, -, right⟩ :=
    run.audited_owner assembled (fun _ _ _ => ⟨_, rfl⟩) (by decide +kernel) begins rfl rfl
  have removes : .exchange 0 ⟨.store .accessTokens (.remove sharedName), .ok deleted⟩ ∈ before := by
    rw [split]
    exact List.mem_append_right _ (List.mem_cons_of_mem _ (List.mem_append_right _
      List.mem_cons_self))
  refine ⟨es, s, _, deleted, run, List.mem_append_left _ removes,
    List.mem_append_right _ (List.mem_singleton_self _), right fun e mem token put => ?_⟩
  -- nothing is put in at all
  have occurs : e ∈ before := by
    rw [split]
    exact List.mem_append_right _ (List.mem_cons_of_mem _ (List.mem_append_left _ mem))
  simp only [before, List.mem_cons, List.not_mem_nil, or_false] at occurs
  obtain rfl | rfl | rfl | rfl := occurs <;> cases put

/-- Otherwise another token may be removed than was looked up: while the first deletion of a token
of `bob` asks admission, the second removes it, and one of `alice` is created in its place. That is
what the first deletion removes, but the audit tells that it was a token of `bob`. -/
theorem Run.misattributed :
    ∃ es s event deleted response, Run contention es s ∧
      .exchange 0 ⟨.store .accessTokens (.remove sharedName), .ok deleted⟩ ∈ es ∧
      .exchange 0 ⟨.record (.audit event), ()⟩ ∈ es ∧
      s.tasks 0 = .done response ∧ response.status = 200 ∧ deleted.userName = "alice" ∧
      event.annotations.find? Admission.AuditLogouts.ownerKey = some "bob" := by
  let bob := tokenHeldBy "bob" (some .epoch)
  let alice := tokenHeldBy "alice" (some .epoch)
  let info (i : Fin 3) (text : String) : Event (Fin 3) :=
    .exchange i ⟨.record (.message .info text), ()⟩
  let es : List (Event (Fin 3)) := [
    .exchange 0 ⟨.store .accessTokens (.find sharedName), some bob⟩,
    info 0 "deletion of oauthaccesstoken for user bob",
    .exchange 1 ⟨.store .accessTokens (.find sharedName), some bob⟩,
    info 1 "deletion of oauthaccesstoken for user bob",
    .exchange 1 ⟨.store .accessTokens (.remove sharedName), .ok bob⟩,
    info 1 ("Deleted oauthaccesstoken " ++ sharedName ++ " of user bob"),
    .exchange 1 ⟨.record (.audit (deletionEvent bob)), ()⟩,
    .exchange 2 ⟨.now, .epoch⟩,
    .exchange 2 ⟨.store .accessTokens (.checkRoom sharedName), .ok ()⟩,
    .exchange 2 ⟨.store .accessTokens (.insert alice), .ok alice⟩,
    .exchange 2 ⟨.record (.audit ((Admission.Change.creating .accessTokens
      StaticToken.admin.identity (tokenHeldBy "alice" none)).auditEvent "create" 201)), ()⟩,
    .exchange 0 ⟨.store .accessTokens (.remove sharedName), .ok alice⟩,
    info 0 ("Deleted oauthaccesstoken " ++ sharedName ++ " of user alice"),
    .exchange 0 ⟨.record (.audit (deletionEvent bob)), ()⟩]
  obtain ⟨s, run, answered⟩ : ∃ s, Run contention es s ∧ s.tasks 0 =
      .done (App.finish (.accessToken sharedName) "DELETE" (.json 200 alice.toJson)) := by
    rw [contention_eq]
    exact ⟨_, .cons (.exchange rfl) (.cons (.exchange rfl) (.cons (.exchange rfl)
      (.cons (.exchange rfl) (.cons (.exchange rfl) (.cons (.exchange rfl) (.cons (.exchange rfl)
      (.cons (.exchange rfl) (.cons (.exchange rfl) (.cons (.exchange rfl) (.cons (.exchange rfl)
      (.cons (.exchange rfl) (.cons (.exchange rfl) (.cons (.exchange rfl)
      (.nil _)))))))))))))), rfl⟩
  exact ⟨es, s, deletionEvent bob, alice, _, run, by simp [es], by simp [es], answered, rfl, rfl,
    rfl⟩

end Pool

end TokenAuthority
