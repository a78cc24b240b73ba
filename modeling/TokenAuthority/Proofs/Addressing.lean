/-
# Objects stay addressable

An object that was created is found under its path, and a token can be deleted there:

| request for the path | while the object lasts | after a deletion, until the next creation |
| --- | --- | --- |
| `GET` | 200, with the object | 404 |
| `DELETE` of a token | 200, with the object | 404 |

if the caller is let through (`App.addressable`). What other requests do with a name is its fate
(`App.Fate`): unless they delete it, the object stays, as it was created but for the notes of uses.
-/

import TokenAuthority.Proofs.History
import TokenAuthority.Proofs.ObjectPath

namespace TokenAuthority

open Http (Request Response)
open Server (Route)

namespace Collection

/-- What uses leave of an object as it is. -/
def lasting : (c : Collection) → c.Object → c.Object
  | accessTokens, token => token.lasting
  | users, user => user

/-- An object is another, or, if that was used, the other with the note of it. -/
def IsUsed (c : Collection) (used : Prop) (object later : c.Object) : Prop :=
  later = object ∨ used ∧ c.lasting later = c.lasting object

variable {c : Collection} {used used' : Prop} {o₁ o₂ o₃ : c.Object}

/-- Two steps that leave an object or use it do so together. -/
theorem IsUsed.trans (h : c.IsUsed used o₁ o₂) (h' : c.IsUsed used' o₂ o₃) :
    c.IsUsed (used ∨ used') o₁ o₃ := by
  obtain rfl | ⟨isUsed, alike⟩ := h
  · exact h'.imp_right (.imp_left .inr)
  · obtain rfl | ⟨-, alike'⟩ := h'
    · exact .inr ⟨.inl isUsed, alike⟩
    · exact .inr ⟨.inl isUsed, alike'.trans alike⟩

/-- A use stays one by a weaker condition. -/
theorem IsUsed.mono (h : c.IsUsed used o₁ o₂) (weaker : used → used') : c.IsUsed used' o₁ o₂ :=
  h.imp_right (.imp_left weaker)

end Collection

namespace Turn

/-- The request created the object of a name. -/
structure CreatesNamed (turn : Turn) (c : Collection) (name : String) : Prop
    extends turn.Creates c where
  posted : ∃ object, Server.readBody c.record turn.request = .ok object ∧
    Stored.name object = name

/-- The request used the token of a name: its caller was accepted by it, or it reviewed it. -/
def Uses (turn : Turn) (app : App Task) (name : String) : Prop :=
  app.Uses turn.request turn.heard name ∨ app.UsesReviewed turn.request turn.heard name

/-- Someone who may do so made a request for a path. -/
structure Asks (turn : Turn) (app : App Task) (method path : String) : Prop where
  method : turn.request.method = method
  path : turn.request.path = path
  allowed : ∃ caller, app.LetsThrough turn.request turn.heard caller

/-- The request was answered with JSON. -/
def Answers (turn : Turn) (status : Nat) (value : Json.Value) : Prop :=
  ∃ response, turn.outcome = some response ∧ response.Tells status value ∧
    response.isBodiless = false

/-- What a handler tells is what is answered, if the body is not left out. -/
theorem answers_of_tells {turn : Turn} {route : Route} {answer : Option Response} {status : Nat}
    {value : Json.Value} (told : turn.outcome = answer.map (App.finish route turn.request.method))
    (answered : ∃ response, answer = some response ∧ response.Tells status value)
    (noHead : turn.request.method ≠ "HEAD") : turn.Answers status value := by
  obtain ⟨response, rfl, tells⟩ := answered
  exact ⟨_, told, tells.finish route turn.request.method, decide_eq_false noHead⟩

end Turn

/-- Whichever plugins the settings enable, they let tokens be deleted. -/
theorem Admission.yields_passed (s : Settings) (caller : Identity) (name : String)
    (existing : Resource.AccessToken) :
    (validate (App.enabledPlugins s) (.deleting caller name existing)).Yields
      (fun _ outcome => outcome.2 = .ok ()) [] := by
  unfold App.enabledPlugins
  split
  · rw [AuditLogouts.validate_deleting]
    exact fun _ => rfl
  · rfl

/-- What gets the object that a segment of a path names. -/
def Collection.getEndpoint : Collection → String → Server.Endpoint
  | accessTokens => .getAccessToken
  | users => .getUser

namespace App

/-! ### What a request does with a name -/

/-- What becomes of the object of a name while a request is worked on. -/
inductive Fate (used : Prop) (turn : Turn) (c : Collection) (name : String) :
    Option c.Object → Option c.Object → Prop where
  | missing : Fate used turn c name none none
  | kept {object later : c.Object} (isUsed : c.IsUsed used object later) :
      Fate used turn c name (some object) (some later)
  | created {object : c.Object} (creates : turn.CreatesNamed c name) :
      Fate used turn c name none (some object)
  | deleted {object : c.Object} (isToken : c = .accessTokens) (deletes : turn.Deletes name) :
      Fate used turn c name (some object) none

/-- Notes of uses keep what is there. -/
theorem exists_find?_of_sameUpTo {noted : String → Prop} {w w' : World} (h : w.SameUpTo noted w')
    {c : Collection} {name : String} {object : c.Object}
    (found : (w.store c).find? name = some object) :
    ∃ later, (w'.store c).find? name = some later ∧ c.IsUsed (noted name) object later := by
  cases c with
  | users =>
    exact ⟨object, (congrArg (fun s : Store Resource.User => s.find? name) h.users).trans found,
      .inl rfl⟩
  | accessTokens =>
    obtain same | ⟨isNoted, stored, later, found', foundLater, alike⟩ := h.accessTokens name
    · exact ⟨object, same.trans found, .inl rfl⟩
    · obtain rfl := Option.some.inj (found'.symm.trans found)
      exact ⟨later, foundLater, .inr ⟨isNoted, alike⟩⟩

/-- In a turn that leaves the stores up to notes of use, every object stays or is used. -/
theorem fate_of_sameUpTo {noted : String → Prop} {w w' : World} (h : w.SameUpTo noted w')
    (turn : Turn) (c : Collection) (name : String) :
    Fate (noted name) turn c name ((w.store c).find? name) ((w'.store c).find? name) := by
  cases found : (w.store c).find? name with
  | none =>
    rw [(h.find?_eq_none_iff c name).2 found]
    exact .missing
  | some object =>
    obtain ⟨later, foundLater, isUsed⟩ := exists_find?_of_sameUpTo h found
    rw [foundLater]
    exact .kept isUsed

section Histories

variable {app : App Task} {timeout : Option UInt64} {w w' : World} {turn : Turn}
  {turns : List Turn} {c : Collection} {name : String}

/-- **The fate of a name** is to be kept, but by its creation or its deletion. -/
theorem fate_of_takes (parts : app.PartsNote timeout) (takes : app.Takes w turn w')
    (c : Collection) (name : String) :
    Fate (timeout ≠ none ∧ turn.Uses app name) turn c name ((w.store c).find? name)
      ((w'.store c).find? name) := by
  obtain ⟨upTo, -, -⟩ | ⟨route, caller, w₁, before, after, matched, split, upTo, -, passed,
    effect⟩ := effectFor_of_ends_answer parts takes
  · exact fate_of_sameUpTo (upTo.mono fun name noted => noted.imp_right .inl) turn c name
  · have noted : w.SameUpTo (fun name => timeout ≠ none ∧ turn.Uses app name) w₁ :=
      upTo.mono fun name noted => noted.imp_right .inl
    have stays := fate_of_sameUpTo noted turn c name
    cases effect with
    | failed fails =>
      exact fate_of_sameUpTo (noted.trans fails.intact.stores.sameUpTo) turn c name
    | read intact method => exact fate_of_sameUpTo (noted.trans intact.stores.sameUpTo) turn c name
    | noted reviews method body audits upTo' =>
      refine fate_of_sameUpTo (noted.trans (upTo'.mono ?_)) turn c name
      rintro name ⟨limited, uses⟩
      exact ⟨limited, .inr ⟨matched, reviews, method, body, split,
        passed (Route.isProtected_of_isReview reviews), uses⟩⟩
    | @created d posted now change isRoute method body faultless admitted new put audits
        answered =>
      subst isRoute
      rw [put c]
      by_cases same : c = d
      · subst same
        rw [World.store_withStore, Store.find?_put, Stored.name_stamp]
        split
        · rename_i isName
          subst isName
          rw [(noted.find?_eq_none_iff c _).1 new]
          exact .created
            ⟨⟨matched, method, Turn.status_of_tells answered⟩, posted, body, rfl⟩
        · exact stays
      · rwa [World.store_withStore_of_ne _ _ same]
    | @deleted segment dropped token change later isRoute method decoded looked admitted present
        drops audits answered =>
      subst isRoute
      rw [drops c]
      cases c with
      | users => exact stays
      | accessTokens =>
        change Fate _ turn .accessTokens name _ ((w₁.accessTokens.drop dropped).find? name)
        rw [Store.find?_drop]
        split
        · rename_i isName
          subst isName
          have deletes : turn.Deletes name :=
            ⟨⟨segment, matched, decoded⟩, method, Turn.status_of_tells answered⟩
          cases (w.store .accessTokens).find? name with
          | none => exact .missing
          | some object => exact .deleted rfl deletes
        · exact stays

/-- What is not deleted stays, but for the notes of uses. -/
theorem History.exists_find? (parts : app.PartsNote timeout) (history : app.History w turns w')
    {object : c.Object} (found : (w.store c).find? name = some object)
    (lasts : c = .accessTokens → ∀ turn ∈ turns, ¬turn.Deletes name) :
    ∃ later, (w'.store c).find? name = some later ∧
      c.IsUsed (timeout ≠ none ∧ ∃ turn ∈ turns, turn.Uses app name) object later := by
  induction history generalizing object with
  | nil w => exact ⟨object, found, .inl rfl⟩
  | @cons w w₁ w' turn turns first later ih =>
    have fate := fate_of_takes parts first c name
    rw [found] at fate
    generalize found₁ : (w₁.store c).find? name = next at fate
    cases fate with
    | kept isUsed =>
      obtain ⟨last, foundLast, isUsed'⟩ := ih found₁ fun isToken turn mem =>
        lasts isToken turn (List.mem_cons_of_mem _ mem)
      refine ⟨last, foundLast, (isUsed.trans isUsed').mono ?_⟩
      rintro (⟨limited, uses⟩ | ⟨limited, turn, mem, uses⟩)
      · exact ⟨limited, _, List.mem_cons_self, uses⟩
      · exact ⟨limited, turn, List.mem_cons_of_mem _ mem, uses⟩
    | deleted isToken deletes => exact absurd deletes (lasts isToken _ List.mem_cons_self)

/-- What is not created stays missing. -/
theorem History.find?_eq_none (parts : app.PartsNote timeout) (history : app.History w turns w')
    (missing : (w.store c).find? name = none)
    (stays : ∀ turn ∈ turns, ¬turn.CreatesNamed c name) : (w'.store c).find? name = none := by
  induction history with
  | nil w => exact missing
  | @cons w w₁ w' turn turns first later ih =>
    have fate := fate_of_takes parts first c name
    rw [missing] at fate
    generalize found₁ : (w₁.store c).find? name = next at fate
    cases fate with
    | missing => exact ih found₁ fun turn mem => stays turn (List.mem_cons_of_mem _ mem)
    | created creates => exact absurd creates (stays _ List.mem_cons_self)

end Histories

/-! ### Requests for a path -/

/-- A `GET` on an object looks up its decoded name. -/
theorem dispatch_get (app : App Task) {c : Collection} {segment name : String} {caller : Identity}
    {request : Request} (decoded : Http.Percent.decodeText? segment = some name)
    (method : request.method = "GET") :
    app.dispatch (c.objectRoute segment) caller request = get c name := by
  have endpoint : (c.objectRoute segment).endpoint? request.method =
      some (c.getEndpoint segment) := by
    rw [method]
    cases c <;> rfl
  unfold dispatch
  rw [endpoint]
  cases c <;> simp only [Collection.getEndpoint, perform, decoding, decoded]

/-- A `DELETE` on an access token takes out its decoded name. -/
theorem dispatch_delete (app : App Task) {segment name : String} {caller : Identity}
    {request : Request} (decoded : Http.Percent.decodeText? segment = some name)
    (method : request.method = "DELETE") :
    app.dispatch (.accessToken segment) caller request = app.deleteAccessToken caller name := by
  have endpoint : (Route.accessToken segment).endpoint? request.method =
      some (.deleteAccessToken segment) := by
    rw [method]
    rfl
  unfold dispatch
  rw [endpoint]
  simp only [perform, decoding, decoded]

/-- What is looked up is answered, and nothing is changed. -/
theorem ends_get {c : Collection} {name : String} {w w' : World} {heard : List Exchange}
    {outcome : Option Response} (ends : (get c name : Task Response).Ends w heard outcome w') :
    w.Intact w' ∧ outcome = some (match (w.store c).find? name with
      | some object => .json 200 (c.toJson object)
      | none => .ofFailure (.notFound (Stored.resource c.Object) name)) := by
  refine ⟨ends.intact (isQuiet_get c name), ?_⟩
  obtain ⟨w₁, later, -, -, looked⟩ := Task.Ends.of_find ends
  cases found : (w.store c).find? name <;> rw [found] at looked <;>
    · obtain ⟨-, rfl, -⟩ := looked.of_done
      rfl

section Paths

variable {app : App Task} {timeout : Option UInt64} {w w' : World} {turn : Turn}
  {c : Collection} {name path method : String}

/-- Who may do so reaches the object of a path. -/
theorem exists_dispatch_of_asks (parts : app.PartsNote timeout) (takes : app.Takes w turn w')
    (asks : turn.Asks app method path) (isPath : c.IsPathOf name path) (named : name ≠ "") :
    ∃ segment caller w₁ after answer, Http.Percent.decodeText? segment = some name ∧
      w.SameUpTo (fun name => timeout ≠ none ∧ turn.Uses app name) w₁ ∧
      (app.dispatch (c.objectRoute segment) caller turn.request).Ends w₁ after answer w' ∧
      turn.outcome = answer.map (finish (c.objectRoute segment) turn.request.method) := by
  obtain ⟨segment, matched, decoded⟩ := isPath.route named
  rw [← asks.path] at matched
  cases course_of_ends_answer parts takes with
  | refused denied upTo audits unsuccessful =>
    obtain ⟨caller, allowed⟩ := asks.allowed
    exact absurd allowed (denied _ matched caller)
  | @served route caller w₁ before after answer matched' split passed upTo audits served told =>
    obtain rfl := Option.some.inj (matched.symm.trans matched')
    exact ⟨segment, caller, w₁, after, answer, decoded,
      upTo.mono fun name noted => noted.imp_right .inl, served, told⟩

/-- A `GET` is answered with the object that is there. -/
theorem answers_get (parts : app.PartsNote timeout) (takes : app.Takes w turn w')
    (asks : turn.Asks app "GET" path) (isPath : c.IsPathOf name path) (named : name ≠ "")
    {object : c.Object} (found : (w.store c).find? name = some object) :
    ∃ later, c.IsUsed (timeout ≠ none ∧ turn.Uses app name) object later ∧
      turn.Answers 200 (c.toJson later) := by
  obtain ⟨segment, caller, w₁, after, answer, decoded, noted, served, told⟩ :=
    exists_dispatch_of_asks parts takes asks isPath named
  obtain ⟨later, foundLater, isUsed⟩ := exists_find?_of_sameUpTo noted found
  rw [dispatch_get app decoded asks.method] at served
  obtain ⟨-, answered⟩ := ends_get served
  rw [foundLater] at answered
  exact ⟨later, isUsed, Turn.answers_of_tells told ⟨_, answered, Response.tells_json ..⟩
    (by rw [asks.method]; decide)⟩

/-- A `GET` of an object that is not stored is answered 404. -/
theorem status_get_of_missing (parts : app.PartsNote timeout) (takes : app.Takes w turn w')
    (asks : turn.Asks app "GET" path) (isPath : c.IsPathOf name path) (named : name ≠ "")
    (missing : (w.store c).find? name = none) : turn.outcome.map (·.status) = some 404 := by
  obtain ⟨segment, caller, w₁, after, answer, decoded, noted, served, told⟩ :=
    exists_dispatch_of_asks parts takes asks isPath named
  rw [dispatch_get app decoded asks.method] at served
  obtain ⟨-, answered⟩ := ends_get served
  rw [(noted.find?_eq_none_iff c name).2 missing] at answered
  rw [told, answered]
  rfl

/-- A `DELETE` takes the token out that is there, and is answered with it. -/
theorem answers_delete {s : Settings} (parts : app.PartsNote timeout)
    (plugins : app.admission = enabledPlugins s)
    (takes : app.Takes w turn w') (asks : turn.Asks app "DELETE" path)
    (isPath : Collection.accessTokens.IsPathOf name path) (named : name ≠ "")
    {token : Resource.AccessToken} (found : w.accessTokens.find? name = some token) :
    (∃ later, Collection.accessTokens.IsUsed (timeout ≠ none ∧ turn.Uses app name) token later ∧
      turn.Answers 200 later.toJson) ∧ w'.accessTokens.find? name = none := by
  obtain ⟨segment, caller, w₁, after, answer, decoded, noted, served, told⟩ :=
    exists_dispatch_of_asks parts takes asks isPath named
  obtain ⟨later, foundLater, isUsed⟩ :=
    exists_find?_of_sameUpTo (c := .accessTokens) noted found
  rw [Collection.objectRoute, dispatch_delete app decoded asks.method] at served
  obtain ⟨change, verdict, before, rest, -, passed, objected | ⟨-, dropped, -, answered⟩⟩ :=
    ends_deleteAccessToken_of_found parts foundLater served
  · obtain ⟨⟨e, rfl⟩, -⟩ := objected
    rw [plugins] at passed
    cases (Admission.yields_passed s caller name later).after passed
  · refine ⟨⟨later, isUsed, Turn.answers_of_tells told ⟨_, answered, Response.tells_json ..⟩
      (by rw [asks.method]; decide)⟩, ?_⟩
    have gone := dropped.find? .accessTokens name
    exact gone.trans (by rw [World.store, Store.find?_drop, if_pos rfl])

/-- A `DELETE` of a token that is not stored is answered 404. -/
theorem status_delete_of_missing (parts : app.PartsNote timeout) (takes : app.Takes w turn w')
    (asks : turn.Asks app "DELETE" path) (isPath : Collection.accessTokens.IsPathOf name path)
    (named : name ≠ "") (missing : w.accessTokens.find? name = none) :
    turn.outcome.map (·.status) = some 404 := by
  obtain ⟨segment, caller, w₁, after, answer, decoded, noted, served, told⟩ :=
    exists_dispatch_of_asks parts takes asks isPath named
  rw [Collection.objectRoute, dispatch_delete app decoded asks.method] at served
  obtain ⟨-, answered⟩ := ends_deleteAccessToken_of_missing
    ((noted.find?_eq_none_iff .accessTokens name).2 missing) served
  rw [told, answered]
  rfl

/-- What was created is stored as it was answered. -/
theorem exists_created (parts : app.PartsNote timeout) (takes : app.Takes w turn w')
    (creates : turn.Creates c) :
    ∃ posted now, let object : c.Object := Stored.stamp posted now
      Server.readBody c.record turn.request = .ok posted ∧ c.IsSound object ∧
        turn.Answers 201 (c.toJson object) ∧
        (w'.store c).find? (Stored.name object) = some object := by
  obtain ⟨response, answered, isStatus⟩ := Option.map_eq_some_iff.1 creates.status
  have succeeds : response.IsSuccess := by
    unfold Response.IsSuccess
    rw [isStatus]
    decide
  cases course_of_ends_answer parts takes with
  | refused denied upTo audits unsuccessful =>
    exact absurd succeeds (unsuccessful response answered)
  | @served route caller w₁ before after answer matched split passed upTo audits served told =>
    obtain rfl := Option.some.inj (matched.symm.trans creates.route)
    cases effect_of_ends_dispatch parts served with
    | failed fails =>
      rw [answered] at told
      obtain ⟨unfinished, isAnswer, rfl⟩ := Option.map_eq_some_iff.1 told.symm
      exact absurd succeeds (fails.unsuccessful unfinished isAnswer)
    | read intact method =>
      rw [creates.method] at method
      exact absurd method (by decide)
    | noted reviews method body audits upTo => cases c <;> cases reviews
    | @created d posted now change isRoute method body faultless admitted new put audits tells =>
      obtain rfl := Collection.route_injective isRoute
      refine ⟨posted, now, body, (Collection.isSound_of_fault? faultless).stamp now,
        Turn.answers_of_tells told tells (by rw [creates.method]; decide), ?_⟩
      rw [put c, World.store_withStore, Store.find?_put, if_pos rfl]
    | deleted isRoute method decoded looked admitted present dropped audits tells =>
      rw [creates.method] at method
      exact absurd method (by decide)

end Paths

/-- **Every created object stays addressable.** Let an application be assembled from any settings,
and let a `POST` of an object be answered 201 in any world. Then it is answered with the object that
was posted, with the time filled in, and every path of this object, however the name is encoded, can
be asked for, unless it is too long.

Whatever other requests follow that do not delete the name, a `GET` of the path is answered 200 with
the object, if the caller is let through. If it is a token, then a `DELETE` is answered 200 with it
as well, and after that, until the name is created again, both are answered 404.

The object is the one that was created, but that the last use may be noted in a token, if there is
an inactivity timeout and one of the requests has used it. -/
theorem addressable {s : Settings} {tokens : List StaticToken} {policy : List PolicyRule}
    {post : Webhook.Transport Task} {configuration : String → ExceptT String Task (Option String)}
    {app : App Task} {w₀ w₀' : World}
    (assembled : (assemble s tokens policy post configuration).run w₀ = (some (.ok app), w₀'))
    (inert : ∀ url seconds review, ∃ reply, post url seconds review = .done reply)
    {c : Collection} {w w₁ : World} {create : Turn} (takes : app.Takes w create w₁)
    (creates : create.Creates c) :
    ∃ posted now, let object : c.Object := Stored.stamp posted now
      Server.readBody c.record create.request = .ok posted ∧
      create.Answers 201 (c.toJson object) ∧
      ∀ path, c.IsPathOf (Stored.name object) path →
        (Text.byteLength path ≤ 65534 → Http.Target.path? path = some path) ∧
        ∀ others w₂, app.History w₁ others w₂ →
          (c = .accessTokens → ∀ turn ∈ others, ¬turn.Deletes (Stored.name object)) →
          let used (turn : Turn) := s.authentication.inactivityTimeout ≠ none ∧
            ∃ user ∈ others ++ [turn], user.Uses app (Stored.name object)
          (∀ get w₃, app.Takes w₂ get w₃ → get.Asks app "GET" path →
            ∃ later, c.IsUsed (used get) object later ∧ get.Answers 200 (c.toJson later)) ∧
          (c = .accessTokens → ∀ delete w₃, app.Takes w₂ delete w₃ → delete.Asks app "DELETE" path →
            (∃ later, c.IsUsed (used delete) object later ∧
              delete.Answers 200 (c.toJson later)) ∧
            ∀ afterwards w₄, app.History w₃ afterwards w₄ →
              (∀ turn ∈ afterwards, ¬turn.CreatesNamed c (Stored.name object)) →
              ∀ again w₅, app.Takes w₄ again w₅ →
                again.Asks app "GET" path ∨ again.Asks app "DELETE" path →
                  again.outcome.map (·.status) = some 404) := by
  have parts := partsNote_of_assemble assembled inert
  obtain ⟨posted, now, body, sound, answered, stored⟩ := exists_created parts takes creates
  refine ⟨posted, now, ?_⟩
  intro object
  refine ⟨body, answered, fun path isPath => ⟨isPath.target, ?_⟩⟩
  intro others w₂ history lasts used
  obtain ⟨kept, found, isUsed⟩ := history.exists_find? parts stored lasts
  -- the note of the request's own use comes on top of those of the others
  have uses {turn : Turn} {later : c.Object}
      (isUsed' : c.IsUsed (s.authentication.inactivityTimeout ≠ none ∧
        turn.Uses app (Stored.name object)) kept later) : c.IsUsed (used turn) object later := by
    refine (isUsed.trans isUsed').mono ?_
    rintro (⟨limited, user, mem, uses⟩ | ⟨limited, uses⟩)
    · exact ⟨limited, user, List.mem_append_left _ mem, uses⟩
    · exact ⟨limited, turn, List.mem_append_right _ (List.mem_singleton_self _), uses⟩
  refine ⟨fun get w₃ takes asks => ?_, ?_⟩
  · obtain ⟨later, isUsed', answers⟩ := answers_get parts takes asks isPath sound.named found
    exact ⟨later, uses isUsed', answers⟩
  · rintro rfl delete w₃ takes asks
    obtain ⟨review, rfl, -⟩ := exists_parts_of_assemble assembled
    obtain ⟨⟨later, isUsed', answers⟩, gone⟩ :=
      answers_delete parts rfl takes asks isPath sound.named found
    refine ⟨⟨later, uses isUsed', answers⟩, ?_⟩
    intro afterwards w₄ history' stays again w₅ takes' asks'
    have missing := history'.find?_eq_none (c := .accessTokens) parts gone stays
    obtain asks' | asks' := asks'
    · exact status_get_of_missing parts takes' asks' isPath sound.named missing
    · exact status_delete_of_missing parts takes' asks' isPath sound.named missing

/-- The caller `admin` is let through everywhere. -/
theorem screen_ofAdmin {method path : String} {route : Route}
    (matched : Route.ofPath path = some route) (guarded : route.isProtected = true) :
    (selfContained {} [.admin] [.adminRules]).screen (.ofAdmin method path) =
      .done (.ok StaticToken.admin.identity) := by
  have bearer : (Http.Header.first? (Request.ofAdmin method path).headers Bearer.fieldName).bind
      (Bearer.token? ·.value) = some "secret".toList := by
    change (Http.Header.first? (Request.ofAdmin "GET" "/").headers Bearer.fieldName).bind
      (Bearer.token? ·.value) = some "secret".toList
    decide +kernel
  exact screen_of_static matched guarded bearer (by decide)
    (.inr ⟨_, List.mem_singleton_self _, .inl (.inr (by decide)), .inl (by decide),
      .inl (by decide), .inl (by decide)⟩)

/-- The hypotheses of `addressable` are satisfiable: a token whose name is no segment of a path as
it stands is posted, found, deleted, and not found again. -/
theorem addressable_escaped :
    let name := "team/α 100%/0123456789abcdef0123"
    let keep (b : UInt8) := b < 128 && (Char.ofNat b.toNat).isAlphanum
    let path := Collection.accessTokens.path ++ "/" ++
      String.ofList (Http.Percent.encode keep (Http.textBytes name))
    let app := selfContained {} [.admin] [.adminRules]
    let w := World.ofSettings {} .epoch
    ∃ posted got deleted gone, (app.answer (.postToken name none 60)).run w = posted ∧
      (app.answer (.ofAdmin "GET" path)).run posted.2 = got ∧
      (app.answer (.ofAdmin "DELETE" path)).run got.2 = deleted ∧
      (app.answer (.ofAdmin "GET" path)).run deleted.2 = gone ∧
      posted.1.map (·.status) = some 201 ∧ got.1.map (·.status) = some 200 ∧
      deleted.1.map (·.status) = some 200 ∧ gone.1.map (·.status) = some 404 := by
  intro name keep path app w
  obtain ⟨w₀', assembled⟩ := run_assemble_selfContained (s := {}) rfl (by decide +kernel)
    [.admin] [.adminRules] (fun _ _ _ => .done none) w
  have isPath : Collection.accessTokens.IsPathOf name path := by
    have plain : ∀ n < 128, (Char.ofNat n).isAlphanum = true →
        Http.Percent.IsPlain (Char.ofNat n) := by
      decide
    refine ⟨_, Http.Percent.encodes_encode (fun b kept => ?_) _, rfl⟩
    obtain ⟨small, alphanum⟩ := Bool.and_eq_true_iff.1 kept
    have small := of_decide_eq_true small
    exact ⟨small, plain _ (UInt8.lt_iff_toNat_lt.1 small) alphanum⟩
  obtain ⟨segment, matched, -⟩ := isPath.route (by decide)
  have asks (method : String) (heard : List Exchange) (outcome : Option Response) :
      Turn.Asks ⟨.ofAdmin method path, heard, outcome⟩ app method path :=
    ⟨rfl, rfl, _, [], heard, rfl, by rw [screen_ofAdmin matched rfl]; exact .nothing _⟩
  obtain ⟨posted, ranPost⟩ : ∃ posted, (app.answer (.postToken name none 60)).run w = posted :=
    ⟨_, rfl⟩
  obtain ⟨got, ranGet⟩ : ∃ got, (app.answer (.ofAdmin "GET" path)).run posted.2 = got := ⟨_, rfl⟩
  obtain ⟨deleted, ranDelete⟩ :
    ∃ deleted, (app.answer (.ofAdmin "DELETE" path)).run got.2 = deleted := ⟨_, rfl⟩
  obtain ⟨gone, ranAgain⟩ :
    ∃ gone, (app.answer (.ofAdmin "GET" path)).run deleted.2 = gone := ⟨_, rfl⟩
  have status : posted.1.map (·.status) = some 201 := by
    rw [← ranPost]
    decide +kernel
  have takes {request : Request} {w₁ : World} {ended : Option Response × World}
      (ran : (app.answer request).run w₁ = ended) :
      ∃ heard, app.Takes w₁ ⟨request, heard, ended.1⟩ ended.2 :=
    Task.exists_ends_of_run ran
  obtain ⟨heard, takesPost⟩ := takes ranPost
  obtain ⟨heardGet, takesGet⟩ := takes ranGet
  obtain ⟨heardDelete, takesDelete⟩ := takes ranDelete
  obtain ⟨heardAgain, takesAgain⟩ := takes ranAgain
  have route : Route.ofPath (Request.postToken name none 60).path = some .accessTokens := by decide
  obtain ⟨token, now, body, -, paths⟩ := addressable assembled (fun _ _ _ => ⟨_, rfl⟩) takesPost
    (c := .accessTokens) ⟨route, rfl, status⟩
  have named : Stored.name (Stored.stamp token now) = name := by
    rw [Stored.name_stamp]
    have read : (Server.readBody Collection.accessTokens.record (.postToken name none 60)).map
        (Stored.name (α := Resource.AccessToken)) = .ok name := by
      decide +kernel
    rw [body] at read
    exact Except.ok.inj read
  rw [named] at paths
  obtain ⟨-, lasts⟩ := paths path isPath
  obtain ⟨finds, -⟩ := lasts [] posted.2 (.nil _) nofun
  obtain ⟨-, deletes⟩ := lasts [⟨_, heardGet, got.1⟩] got.2 (.cons takesGet (.nil _))
    fun _ turn mem deletes => by
      obtain rfl := List.mem_singleton.1 mem
      exact absurd (show "GET" = "DELETE" from deletes.method) (by decide)
  obtain ⟨later, -, answered⟩ := finds _ _ takesGet (asks "GET" heardGet got.1)
  obtain ⟨⟨later', -, answered'⟩, misses⟩ :=
    deletes rfl _ _ takesDelete (asks "DELETE" heardDelete deleted.1)
  have missed := misses [] deleted.2 (.nil _) nofun _ _ takesAgain
    (.inl (asks "GET" heardAgain gone.1))
  have ok {turn : Turn} {value : Json.Value} (answered : turn.Answers 200 value) :
      turn.outcome.map (·.status) = some 200 := by
    obtain ⟨response, isOutcome, tells, -⟩ := answered
    exact Turn.status_of_tells ⟨response, isOutcome, tells⟩
  exact ⟨posted, got, deleted, gone, ranPost, ranGet, ranDelete, ranAgain, status, ok answered,
    ok answered', missed⟩

end App

end TokenAuthority
