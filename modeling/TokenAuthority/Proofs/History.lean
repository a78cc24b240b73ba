/-
# The audit tells the history

Requests that are worked on one after the other form a history (`App.History`). Each of them adds to
the audit what it has changed on behalf of a caller (`App.Audits`):

| request | answer | event |
| --- | --- | --- |
| `POST` of an object | 201 | `create`, with the name of the object |
| `DELETE` of a token | 200 | `delete`, with the name that the path stands for |
| any | any other | none |

The events of a history follow each other like its requests. Read from the first to the last, they
tell under which names objects are stored (`App.audit_faithful`): uses are noted in tokens, but give
no token another name.
-/

import TokenAuthority.Proofs.BoundedMap
import TokenAuthority.Proofs.Unchanged

namespace TokenAuthority

open Http (Request Response)
open Server (Route)

/-! ### What admission makes of a change -/

namespace Admission

/-- Plugins add annotations to a change, and nothing else. -/
theorem Change.yields_annotate {heard : List Exchange} (change : Change)
    (notes : List (String × String)) :
    (change.annotate notes : Task Change).Yields
      (fun _ noted => noted = { change with annotations := noted.annotations }) heard := by
  induction notes generalizing change heard with
  | nil => rfl
  | cons note rest ih =>
    have others {heard : List Exchange} :
        ((change.note note.1 note.2).annotate rest : Task Change).Yields
          (fun _ noted => noted = { change with annotations := noted.annotations }) heard := by
      refine (ih (change.note note.1 note.2)).mono fun _ noted same => ?_
      unfold Change.note at same
      split at same <;> exact same
    unfold annotate
    split
    · exact fun _ => others
    · exact others

/-- Plugins leave everything but the annotations of a change. -/
theorem yields_validate {heard : List Exchange} (plugins : List (Plugin Task)) (change : Change) :
    (validate plugins change).Yields
      (fun _ outcome => outcome.1 = { change with annotations := outcome.1.annotations })
      heard := by
  induction plugins generalizing change heard with
  | nil => rfl
  | cons plugin rest ih =>
    unfold validate
    split
    · refine (Task.yields_true _).bind fun heard opinion _ => ?_
      refine (change.yields_annotate opinion.notes).bind fun heard noted same => ?_
      cases opinion.objection with
      | some e => exact same
      | none =>
        refine (ih noted).mono fun _ outcome same' => ?_
        rw [same] at same'
        exact same'
    · exact ih change

/-- A change that was let pass has its annotations, and all else as it was. -/
theorem Admits.eq_of_annotations {plugins : List (Plugin Task)} {heard : List Exchange}
    {asked noted : Change} (admits : Admits plugins heard asked noted) :
    noted = { asked with annotations := noted.annotations } := by
  obtain ⟨-, passed⟩ := admits
  have yields : (validate plugins asked).Yields _ [] := yields_validate plugins asked
  exact yields.after passed

end Admission

/-! ### Names -/

/-- Notes of uses leave the names of a store. -/
theorem World.SameUpTo.keys {noted : String → Prop} {w w' : World} (h : w.SameUpTo noted w')
    (c : Collection) : (w'.store c).contents.keys = (w.store c).contents.keys := by
  ext name
  rw [Finmap.mem_keys, Finmap.mem_keys, Store.mem_contents, Store.mem_contents,
    Option.isSome_iff_ne_none, Option.isSome_iff_ne_none, ne_eq, ne_eq, h.find?_eq_none_iff]

namespace Collection

/-- The names of a collection's objects after an event of the audit. -/
def namesAfter (c : Collection) (names : Finset String) (event : AuditEvent) : Finset String :=
  if event.resource ≠ c.groupResource.text then names
  else if event.verb = "create" then insert event.name names
  else if event.verb = "delete" then names.erase event.name
  else names

/-- The names of a collection's objects, as events tell them from the first to the last. -/
def replay (c : Collection) (events : List AuditEvent) : Finset String :=
  events.foldl c.namesAfter ∅

/-- Collections are told apart by the texts of their resources. -/
theorem text_injective : Function.Injective fun c : Collection => c.groupResource.text := by
  rintro (_ | _) (_ | _) same <;> first | rfl | exact absurd same (by decide)

end Collection

/-! ### Histories -/

/-- A request, what it has heard, and what it came to, which is `none` if it was abandoned. -/
structure Turn where
  request : Request
  heard : List Exchange
  outcome : Option Response

namespace Turn

/-- The request posted an object, and was answered 201. -/
structure Creates (turn : Turn) (c : Collection) : Prop where
  route : Route.ofPath turn.request.path = some c.route
  method : turn.request.method = "POST"
  status : turn.outcome.map (·.status) = some 201

/-- The request was to delete the token of a name, and was answered 200. -/
structure Deletes (turn : Turn) (name : String) : Prop where
  route : ∃ segment, Route.ofPath turn.request.path = some (.accessToken segment) ∧
    Http.Percent.decodeText? segment = some name
  method : turn.request.method = "DELETE"
  status : turn.outcome.map (·.status) = some 200

/-- A turn whose response tells something has the status of it. -/
theorem status_of_tells {turn : Turn} {status : Nat} {value : Json.Value}
    (answered : ∃ response, turn.outcome = some response ∧ response.Tells status value) :
    turn.outcome.map (·.status) = some status := by
  obtain ⟨response, answered, tells⟩ := answered
  rw [answered, Option.map_some, tells.status]

end Turn

namespace App

/-- A request goes like this if it is worked on alone. The clock may be set at any moment. -/
def Takes (app : App Task) (w : World) (turn : Turn) (w' : World) : Prop :=
  (app.answer turn.request).Ends w turn.heard turn.outcome w'

/-- Requests were worked on one after the other. -/
inductive History (app : App Task) : World → List Turn → World → Prop where
  | nil (w : World) : History app w [] w
  | cons {w w' w'' : World} {turn : Turn} {turns : List Turn} (first : app.Takes w turn w')
      (later : History app w' turns w'') : History app w (turn :: turns) w''

/-- The events that a request is due in the audit: one, if it has changed something, with the name
of the caller that the filters let through and with the annotations that admission came to. -/
inductive Audits (app : App Task) (turn : Turn) : List AuditEvent → Prop where
  | created {c : Collection} {posted : c.Object} {caller : Identity} {noted : Admission.Change}
      {before after : List Exchange} (creates : turn.Creates c)
      (body : Server.readBody c.record turn.request = .ok posted)
      (split : turn.heard = before ++ after)
      (passed : (app.screen turn.request).After before (.done (.ok caller)))
      (admitted : Admission.Admits app.admission after (.creating c caller posted) noted) :
      Audits app turn [{
        verb := "create"
        resource := c.groupResource.text
        name := Stored.name posted
        user := caller.name
        annotations := noted.annotations
        code := 201 }]
  | deleted {name : String} {existing : Resource.AccessToken} {caller : Identity}
      {noted : Admission.Change} {before after : List Exchange} (deletes : turn.Deletes name)
      (split : turn.heard =
        before ++ ⟨.store .accessTokens (.find name), some existing⟩ :: after)
      (passed : (app.screen turn.request).After before (.done (.ok caller)))
      (admitted : Admission.Admits app.admission after (.deleting caller name existing) noted) :
      Audits app turn [{
        verb := "delete"
        resource := Collection.accessTokens.groupResource.text
        name
        user := caller.name
        annotations := noted.annotations
        code := 200 }]
  | nothing (noCreation : ∀ c, ¬turn.Creates c) (noDeletion : ∀ name, ¬turn.Deletes name) :
      Audits app turn []

/-- The stores and the audit after a request that was due some events. -/
structure Told (w : World) (events : List AuditEvent) (w' : World) : Prop where
  audits : w'.audits = w.audits ++ events
  keys : ∀ c : Collection,
    (w'.store c).contents.keys = events.foldl c.namesAfter (w.store c).contents.keys

section Histories

variable {app : App Task} {timeout : Option UInt64} {w w' : World}

/-- What two turns are due is due to both together. -/
theorem Told.trans {w₁ w₂ w₃ : World} {events events' : List AuditEvent} (h : Told w₁ events w₂)
    (h' : Told w₂ events' w₃) : Told w₁ (events ++ events') w₃ where
  audits := by rw [h'.audits, h.audits, List.append_assoc]
  keys c := by rw [h'.keys, h.keys, List.foldl_append]

/-- Where no event was due and nothing was created or deleted, nothing is told. -/
theorem told_nil {noted : String → Prop} (audits : w'.audits = w.audits)
    (upTo : w.SameUpTo noted w') : Told w [] w' :=
  ⟨by rw [audits, List.append_nil], upTo.keys⟩

/-- Where the world is intact, nothing is told. -/
theorem told_of_intact (intact : w.Intact w') : Told w [] w' :=
  told_nil intact.audits (intact.stores.sameUpTo : w.SameUpTo (fun _ => False) w')

/-- What is stored under a name and written into the audit is told. -/
theorem told_put {c : Collection} {object : c.Object} {event : AuditEvent}
    (resource : event.resource = c.groupResource.text) (verb : event.verb = "create")
    (name : event.name = Stored.name object) (audits : w'.audits = w.audits ++ [event])
    (put : (w.withStore c ((w.store c).put object)).SameStores w') : Told w [event] w' := by
  refine ⟨audits, fun d => ?_⟩
  rw [put d, List.foldl_cons, List.foldl_nil, Collection.namesAfter, resource]
  by_cases same : d = c
  · subst same
    rw [World.store_withStore, Store.contents_put, Contents.keys_insert, if_neg (not_not.2 rfl),
      if_pos verb, name]
  · rw [World.store_withStore_of_ne _ _ same,
      if_pos fun text => same (Collection.text_injective text).symm]

/-- So is what is taken out. -/
theorem told_drop {name : String} {event : AuditEvent}
    (resource : event.resource = Collection.accessTokens.groupResource.text)
    (verb : event.verb = "delete") (isName : event.name = name)
    (audits : w'.audits = w.audits ++ [event])
    (dropped : { w with accessTokens := w.accessTokens.drop name }.SameStores w') :
    Told w [event] w' := by
  refine ⟨audits, fun c => ?_⟩
  rw [dropped c, List.foldl_cons, List.foldl_nil, Collection.namesAfter, resource, verb, isName]
  cases c with
  | users => rfl
  | accessTokens =>
    rw [if_neg (not_not.2 rfl), if_neg (by decide), if_pos rfl]
    exact (congrArg Finmap.keys (Store.contents_drop ..)).trans (Finmap.keys_erase ..)

/-- **A request is due what it adds to the audit**, and that tells what it does to the names. -/
theorem exists_audits_of_takes (parts : app.PartsNote timeout) {turn : Turn}
    (takes : app.Takes w turn w') :
    ∃ events, app.Audits turn events ∧ Told w events w' := by
  -- creations and deletions are successes
  have failed (unsuccessful : ∀ response, turn.outcome = some response → ¬response.IsSuccess) :
      app.Audits turn [] := by
    have noStatus {status : Nat} (success : 200 ≤ status ∧ status < 300)
        (isStatus : turn.outcome.map (·.status) = some status) : False := by
      obtain ⟨response, answered, rfl⟩ := Option.map_eq_some_iff.1 isStatus
      exact unsuccessful response answered success
    exact .nothing (fun _ creates => noStatus (by decide) creates.status)
      fun _ deletes => noStatus (by decide) deletes.status
  obtain ⟨upTo, audits, unsuccessful⟩ | ⟨route, caller, w₁, before, after, matched, split, upTo,
    audits, passed, effect⟩ := effectFor_of_ends_answer parts takes
  · exact ⟨[], failed unsuccessful, told_nil audits upTo⟩
  · have start : Told w [] w₁ := told_nil audits upTo
    cases effect with
    | failed fails =>
      exact ⟨[], failed fails.unsuccessful, start.trans (told_of_intact fails.intact)⟩
    | read intact method =>
      refine ⟨[], .nothing (fun c creates => ?_) fun name deletes => ?_,
        start.trans (told_of_intact intact)⟩
      · rw [creates.method] at method
        exact absurd method (by decide)
      · rw [deletes.method] at method
        exact absurd method (by decide)
    | noted reviews method body audits upTo =>
      refine ⟨[], .nothing (fun c creates => ?_) fun name deletes => ?_,
        start.trans (told_nil audits upTo)⟩
      · obtain rfl := Option.some.inj (matched.symm.trans creates.route)
        cases c <;> cases reviews
      · rw [deletes.method] at method
        exact absurd method (by decide)
    | @created c posted now noted isRoute method body faultless admitted new put audits answered =>
      subst isRoute
      have due := Audits.created ⟨matched, method, Turn.status_of_tells answered⟩ body split
        (passed (by cases c <;> rfl)) admitted
      have told : noted.auditEvent "create" 201 = _ :=
        congrArg (·.auditEvent "create" 201) admitted.eq_of_annotations
      rw [told] at audits
      exact ⟨_, due, start.trans (told_put rfl rfl (Stored.name_stamp posted now).symm audits put)⟩
    | @deleted segment name deleted noted later isRoute method decoded looked admitted present
        dropped audits answered =>
      subst isRoute looked
      have due := Audits.deleted
        ⟨⟨segment, matched, decoded⟩, method, Turn.status_of_tells answered⟩ split (passed rfl)
        admitted
      have told : noted.auditEvent "delete" 200 = _ :=
        congrArg (·.auditEvent "delete" 200) admitted.eq_of_annotations
      rw [told] at audits
      exact ⟨_, due, start.trans (told_drop rfl rfl rfl audits dropped)⟩

/-- **A history adds to the audit what its requests are due**, in their order. -/
theorem History.exists_audits (parts : app.PartsNote timeout) {turns : List Turn}
    (history : app.History w turns w') :
    ∃ events, List.Forall₂ app.Audits turns events ∧ Told w events.flatten w' := by
  induction history with
  | nil w => exact ⟨[], .nil, ⟨(List.append_nil _).symm, fun _ => rfl⟩⟩
  | cons first later ih =>
    obtain ⟨events, due, told⟩ := exists_audits_of_takes parts first
    obtain ⟨others, dues, toldOthers⟩ := ih
    exact ⟨events :: others, .cons due dues, told.trans toldOthers⟩

end Histories

/-- **The audit is a faithful history.** Let an application be assembled from any settings, and let
it answer any requests, one after the other, from any world. Then each `POST` of an object that is
answered 201, and each `DELETE` of a token that is answered 200, adds one event to the audit, with
the resource, the name of the object, the name of the caller that was let through and the
annotations that admission came to; no other request adds any, and the events are in the order of
the requests.

If nothing was stored and the audit was empty before, then the audit alone tells under which names
objects are stored afterwards. -/
theorem audit_faithful {s : Settings} {tokens : List StaticToken} {policy : List PolicyRule}
    {post : Webhook.Transport Task} {configuration : String → ExceptT String Task (Option String)}
    {app : App Task} {w₀ w₀' : World}
    (assembled : (assemble s tokens policy post configuration).run w₀ = (some (.ok app), w₀'))
    (inert : ∀ url seconds review, ∃ reply, post url seconds review = .done reply)
    {w w' : World} {turns : List Turn} (history : app.History w turns w') :
    (∃ events, List.Forall₂ app.Audits turns events ∧ w'.audits = w.audits ++ events.flatten) ∧
      ((∀ c, (w.store c).contents = ∅) → w.audits = [] →
        ∀ c, (w'.store c).contents.keys = c.replay w'.audits) := by
  have parts := partsNote_of_assemble assembled inert
  obtain ⟨events, due, audits, keys⟩ := history.exists_audits parts
  refine ⟨⟨events, due, audits⟩, fun empty silent c => ?_⟩
  rw [keys c, empty c, audits, silent, List.nil_append]
  rfl

/-- The hypotheses of `audit_faithful` are satisfiable: a token of `alice` is posted, and then
deleted, which is noted with its owner. -/
theorem audit_faithful_session :
    let name := "0123456789abcdef0123456789abcdef"
    let app := selfContained {} [.admin] [.adminRules]
    let w := World.ofSettings {} .epoch
    let post := Request.postToken name none 60
    let delete := Request.ofAdmin "DELETE"
      ("/apis/oauth.openshift.io/v1/oauthaccesstokens/" ++ name)
    ∃ posted deleted, (app.answer post).run w = posted ∧
      (app.answer delete).run posted.2 = deleted ∧ posted.1.map (·.status) = some 201 ∧
      deleted.1.map (·.status) = some 200 ∧
      deleted.2.audits.map (fun e =>
        (e.verb, e.name, e.user, e.annotations.find? Admission.AuditLogouts.ownerKey)) =
        [("create", name, "admin", none), ("delete", name, "admin", some "alice")] ∧
      posted.2.accessTokens.contents.keys = Collection.accessTokens.replay posted.2.audits ∧
      deleted.2.accessTokens.contents.keys = Collection.accessTokens.replay deleted.2.audits := by
  intro name app w post delete
  obtain ⟨w₀', assembled⟩ := run_assemble_selfContained (s := {}) rfl (by decide +kernel)
    [.admin] [.adminRules] (fun _ _ _ => .done none) w
  have empty (c : Collection) : (w.store c).contents = ∅ := by cases c <;> rfl
  obtain ⟨posted, ran⟩ : ∃ posted, (app.answer post).run w = posted := ⟨_, rfl⟩
  obtain ⟨deleted, ran'⟩ : ∃ deleted, (app.answer delete).run posted.2 = deleted := ⟨_, rfl⟩
  obtain ⟨heard, first⟩ := Task.exists_ends_of_run ran
  obtain ⟨heard', second⟩ := Task.exists_ends_of_run ran'
  have once : app.History w [⟨post, heard, posted.1⟩] posted.2 := .cons first (.nil _)
  have twice : app.History w [⟨post, heard, posted.1⟩, ⟨delete, heard', deleted.1⟩] deleted.2 :=
    .cons first (.cons second (.nil _))
  have told : posted.1.map (·.status) = some 201 ∧ deleted.1.map (·.status) = some 200 ∧
      deleted.2.audits.map (fun e =>
        (e.verb, e.name, e.user, e.annotations.find? Admission.AuditLogouts.ownerKey)) =
        [("create", name, "admin", none), ("delete", name, "admin", some "alice")] := by
    rw [← ran', ← ran]
    decide +kernel
  exact ⟨posted, deleted, ran, ran', told.1, told.2.1, told.2.2,
    (audit_faithful assembled (fun _ _ _ => ⟨_, rfl⟩) once).2 empty rfl .accessTokens,
    (audit_faithful assembled (fun _ _ _ => ⟨_, rfl⟩) twice).2 empty rfl .accessTokens⟩

end App

end TokenAuthority
