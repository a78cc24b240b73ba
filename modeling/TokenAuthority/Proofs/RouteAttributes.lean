/-
# What the authorizer sees of a route

The router compares the segments of a path as they are sent, and `Attributes.resolve` splits the
same path once more, after it has dropped the slashes at both ends. `Attributes.resolve_of_ofPath`
says that the two agree on every path of a protected route:

| route | group | resource | name |
| --- | --- | --- | --- |
| `tokenReviews`, `namespacedTokenReviews` | `oauth.openshift.io` | `tokenreviews` | |
| `accessTokens`, `accessToken` | `oauth.openshift.io` | `oauthaccesstokens` | of the token |
| `users`, `user` | `user.openshift.io` | `users` | of the user |

They can differ only where a slash at an end is dropped that the router counts, and no route ends in
an empty segment (`segments_eq_of_fields`).
-/

import TokenAuthority.Server.Route

namespace TokenAuthority

namespace Text

variable {α : Type} [DecidableEq α] {separator : α}

/-- Fields are found on both sides of a separator. -/
theorem fields_append (separator : α) (s t : List α) :
    fields separator (s ++ separator :: t) = fields separator s ++ fields separator t := by
  induction s with
  | nil => simp [fields]
  | cons c rest ih =>
    rw [List.cons_append, fields, fields, ih]
    split
    · rfl
    · cases parts : fields separator rest with
      | nil => exact absurd parts (fields_ne_nil separator rest)
      | cons part parts => rfl

/-- Behind a separator at the end there is an empty field. -/
theorem fields_append_separator (separator : α) (s : List α) :
    fields separator (s ++ [separator]) = fields separator s ++ [[]] :=
  fields_append separator s []

/-- A list without separators is one field. -/
theorem fields_of_notMem {s : List α} (h : separator ∉ s) : fields separator s = [s] := by
  induction s with
  | nil => rfl
  | cons c rest ih =>
    obtain ⟨first, others⟩ := not_or.1 (mt List.mem_cons.2 h)
    unfold fields
    rw [if_neg (Ne.symm first), ih others]

/-- A list whose first field is not empty begins with something other than a separator. -/
theorem exists_of_fields_cons {s part : List α} {parts : List (List α)} (ne : part ≠ [])
    (h : fields separator s = part :: parts) : ∃ c rest, s = c :: rest ∧ c ≠ separator := by
  cases s with
  | nil => exact absurd (List.cons.inj h).1.symm ne
  | cons c rest =>
    refine ⟨c, rest, rfl, fun same => ne ?_⟩
    unfold fields at h
    rw [if_pos same] at h
    exact (List.cons.inj h).1.symm

/-- A list whose first field is empty begins with a separator, if there is another field. -/
theorem exists_of_fields_nil_cons {s : List α} {part : List α} {parts : List (List α)}
    (h : fields separator s = [] :: part :: parts) :
    ∃ rest, s = separator :: rest ∧ fields separator rest = part :: parts := by
  cases s with
  | nil => simp [fields] at h
  | cons c rest =>
    unfold fields at h
    split at h
    · rename_i same
      exact ⟨rest, by rw [same], (List.cons.inj h).2⟩
    · split at h <;> simp at h

/-- What neither begins nor ends with something to drop is kept by stripping. -/
theorem strip_eq_self {α : Type} {p : α → Bool} {s : List α} (first : ∀ a ∈ s.head?, p a = false)
    (last : ∀ a ∈ s.getLast?, p a = false) : strip p s = s := by
  cases s with
  | nil => rfl
  | cons c rest =>
    obtain ⟨front, d, concat⟩ : ∃ front d, c :: rest = front ++ [d] :=
      ⟨_, _, (List.dropLast_concat_getLast (List.cons_ne_nil c rest)).symm⟩
    have firstKept : p c = false := first c rfl
    have lastKept : p d = false := last d (by rw [concat, List.getLast?_concat]; rfl)
    unfold strip
    rw [List.dropWhile_cons_of_neg (by simp [firstKept]), concat, List.reverse_append,
      List.reverse_singleton, List.singleton_append,
      List.dropWhile_cons_of_neg (by simp [lastKept]), List.reverse_cons, List.reverse_reverse]

/-- What neither begins nor ends with a separator is kept by stripping it. -/
theorem strip_of_fields {s part : List α} {parts : List (List α)} (ne : part ≠ [])
    (last : (part :: parts).getLast? ≠ some []) (h : fields separator s = part :: parts) :
    strip (· = separator) s = s := by
  refine strip_eq_self ?_ ?_
  · obtain ⟨c, rest, rfl, notSeparator⟩ := exists_of_fields_cons ne h
    rintro _ ⟨⟩
    exact decide_eq_false notSeparator
  · intro d isLast
    obtain ⟨front, rfl⟩ : ∃ front, s = front ++ [d] := List.getLast?_eq_some_iff.1 isLast
    refine decide_eq_false ?_
    rintro rfl
    rw [fields_append_separator] at h
    exact last (by rw [← h, List.getLast?_concat])

end Text

/-- The segments of a path that begins with a slash and does not end with an empty segment are those
behind the slash. -/
theorem Attributes.segments_eq_of_fields {path first : String} {others : List String}
    (h : (Text.fields '/' path.toList).map String.ofList = "" :: first :: others)
    (ne : first ≠ "") (last : (first :: others).getLast? ≠ some "") :
    Attributes.segments path = first :: others := by
  obtain ⟨root, parts, fields, rootEmpty, rest⟩ := List.map_eq_cons_iff.1 h
  obtain ⟨part, parts, rfl, firstEq, othersEq⟩ := List.map_eq_cons_iff.1 rest
  obtain rfl : root = [] := by simpa using congrArg String.toList rootEmpty
  obtain ⟨s, path_eq, fields⟩ := Text.exists_of_fields_nil_cons fields
  have partNe : part ≠ [] := by
    rintro rfl
    exact ne (by simpa using firstEq.symm)
  have lastNe : (part :: parts).getLast? ≠ some [] := fun empty => last (by
    rw [← firstEq, ← othersEq, ← List.map_cons, List.getLast?_map, empty]
    rfl)
  have stripped : Text.strip (· = '/') path.toList = s := by
    have kept := Text.strip_of_fields partNe lastNe fields
    unfold Text.strip at kept ⊢
    rw [path_eq, List.dropWhile_cons_of_pos (by simp)]
    exact kept
  unfold Attributes.segments
  rw [stripped, fields, List.map_cons, firstEq, othersEq]

namespace Server.Route

/-- The API group of a route's resource. -/
def apiGroup : Route → String
  | tokenReviews | namespacedTokenReviews _ | accessTokens | accessToken _ => Resource.oauthGroup
  | users | user _ => Resource.userGroup
  | _ => ""

/-- The resource of a route. -/
def resource : Route → String
  | tokenReviews | namespacedTokenReviews _ => Resource.tokenReviews
  | accessTokens | accessToken _ => Resource.accessTokens
  | users | user _ => Resource.users
  | _ => ""

/-- The name of the object that a route leads to, empty if it leads to a collection. -/
def name : Route → String
  | accessToken name | user name => name
  | _ => ""

/-- The verb that a method stands for on a route. -/
def verb (route : Route) (method : String) : String :=
  if method = "POST" then "create"
  else if method = "GET" ∨ method = "HEAD" then if route.name = "" then "list" else "get"
  else if method = "DELETE" then if route.name = "" then "deletecollection" else "delete"
  else if method = "PUT" then "update"
  else if method = "PATCH" then "patch"
  else ""

/-- Whether tokens are reviewed on a route. -/
def isReview : Route → Bool
  | tokenReviews | namespacedTokenReviews _ => true
  | _ => false

/-- The segments of a route's path behind the root. -/
def segments : Route → List String
  | health => ["healthz"]
  | readiness => ["readyz"]
  | description => ["openapi.json"]
  | reference => ["scalar"]
  | tokenReviews => ["apis", "oauth.openshift.io", "v1", "tokenreviews"]
  | namespacedTokenReviews ns =>
    ["apis", "oauth.openshift.io", "v1", "namespaces", ns, "tokenreviews"]
  | accessTokens => ["apis", "oauth.openshift.io", "v1", "oauthaccesstokens"]
  | accessToken name => ["apis", "oauth.openshift.io", "v1", "oauthaccesstokens", name]
  | users => ["apis", "user.openshift.io", "v1", "users"]
  | user name => ["apis", "user.openshift.io", "v1", "users", name]

/-- A path that is routed begins with a slash, ends without one, and has the segments of its route.
-/
theorem eq_segments_of_ofSegments {l : List String} {route : Route}
    (h : ofSegments l = some route) :
    l = "" :: route.segments ∧ route.segments.getLast? ≠ some "" := by
  unfold ofSegments at h
  split at h
  case h_8 name | h_10 name =>
    split at h
    · simp at h
    · rename_i ne
      obtain rfl := Option.some.inj h
      exact ⟨rfl, by simpa [segments] using ne⟩
  case h_11 => simp at h
  all_goals
    obtain rfl := Option.some.inj h
    exact ⟨rfl, by simp [segments]⟩

/-- The attributes of a path are read from the segments of its route. -/
theorem segments_of_ofPath {path : String} {route : Route} (h : ofPath path = some route) :
    Attributes.segments path = route.segments := by
  obtain ⟨fields, last⟩ := eq_segments_of_ofSegments h
  cases route <;> exact Attributes.segments_eq_of_fields fields (by decide) last

end Server.Route

open Server (Route)

/-- The verb of a method is that of the route. -/
theorem Attributes.resourceVerb_eq (method : String) (route : Route) :
    resourceVerb method (route.name ≠ "") = route.verb method := by
  unfold resourceVerb Route.verb
  split <;> simp_all

/-- **The authorizer sees what the router matched:** the group, resource, name and verb of the
attributes are those of the route, whatever the method. -/
theorem Attributes.resolve_of_ofPath {path : String} {route : Route} (method : String)
    (user : Option Identity) (matched : Route.ofPath path = some route)
    (guarded : route.isProtected = true) :
    let a := resolve method path user
    a.isResource = true ∧ a.user = user ∧ a.path = path ∧ a.apiGroup = route.apiGroup ∧
      a.resource = route.resource ∧ a.subresource = "" ∧ a.name = route.name ∧
      a.verb = route.verb method := by
  have segments := Route.segments_of_ofPath matched
  rw [← Attributes.resourceVerb_eq]
  unfold resolve
  rw [segments]
  cases route <;>
    first
    | exact absurd guarded (by decide)
    | exact ⟨rfl, rfl, rfl, rfl, rfl, rfl, rfl, rfl⟩

end TokenAuthority
