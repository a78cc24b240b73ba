/-
# Paths of resources

A `ResourcePath` is the path of a resource taken apart: group, version, namespace, resource, and
what stands behind the resource. `ResourcePath.path` writes it, with any number of slashes more at
both ends, and `ResourcePath.attributes` says what is meant by it.

| path | namespace | resource | name | subresource |
| --- | --- | --- | --- | --- |
| `/apis/g/v/r` | | `r` | | |
| `/apis/g/v/namespaces/n/r/x/s/…` | `n` | `r` | `x` | `s` |
| `/apis/g/v/namespaces/n` | | `namespaces` | `n` | |
| `/apis/g/v/namespaces/n/s/x/…` | `n` | `s` | `x` | |

`Attributes.resolve_inverts` is the round trip. A path is read by its segments, and `IsMadeOf` says
which these are without reading it: the one list of texts without slashes that gives the path when
joined by slashes, with slashes more at both ends (`Attributes.segments_eq_iff`). So the segments of
a written path are those it was written from, except that empty ones at its end are lost
(`ResourcePath.exists_segments_eq`). This does no harm, since an absent segment counts for the empty
text (`Attributes.ofSegments_stem`).
-/

import TokenAuthority.Authorization.Resolve
import TokenAuthority.Proofs.BearerGrammar

namespace TokenAuthority

namespace Text

variable {α : Type} [DecidableEq α] {separator : α}

/-- Fields are what a list is split into. -/
theorem fields_eq_splitOn (separator : α) (s : List α) :
    fields separator s = s.splitOn separator := by
  induction s with
  | nil => rfl
  | cons c rest ih =>
    rw [List.splitOn_cons_eq_if_modifyHead, fields, ih]
    simp only [beq_iff_eq]
    split
    · rfl
    · cases parts : rest.splitOn separator with
      | nil => exact absurd parts (List.splitOn_ne_nil separator rest)
      | cons part parts => rfl

/-- Fields without separators are found again when they are joined. -/
theorem fields_intercalate {parts : List (List α)} (ne : parts ≠ [])
    (noSeparator : ∀ part ∈ parts, separator ∉ part) :
    fields separator ([separator].intercalate parts) = parts := by
  rw [fields_eq_splitOn, List.splitOn_intercalate separator noSeparator ne]

/-- The fields of a list are joined to the list. -/
theorem intercalate_fields (separator : α) (s : List α) :
    [separator].intercalate (fields separator s) = s := by
  rw [fields_eq_splitOn, List.intercalate_splitOn]

/-- No field has a separator in it. -/
theorem notMem_of_mem_fields {s part : List α} (h : part ∈ fields separator s) :
    separator ∉ part := by
  induction s generalizing part with
  | nil => simp_all [fields]
  | cons c rest ih =>
    unfold fields at h
    split at h
    · obtain rfl | mem := List.mem_cons.1 h
      · exact List.not_mem_nil
      · exact ih mem
    · rename_i other
      split at h
      · rename_i none
        exact absurd none (fields_ne_nil separator rest)
      · rename_i first parts split
        obtain rfl | mem := List.mem_cons.1 h
        · exact fun mem => (List.mem_cons.1 mem).elim (fun same => other same.symm)
            (ih (split ▸ List.mem_cons_self))
        · exact ih (split ▸ List.mem_cons_of_mem _ mem)

end Text

/-! ### Segments -/

namespace Attributes

/-- A path is made of segments: they are joined by slashes, with slashes more at both ends. Neither
the first segment nor the last is empty, unless the path has nothing but slashes. -/
structure IsMadeOf (path : String) (segments : List String) : Prop where
  joined : ∃ before after, path.toList = List.replicate before '/' ++
    ("/".intercalate segments).toList ++ List.replicate after '/'
  noSlash : ∀ s ∈ segments, '/' ∉ s.toList
  ends : segments = [""] ∨
    segments ≠ [] ∧ segments.head? ≠ some "" ∧ segments.getLast? ≠ some ""

/-- Texts without slashes are found again when they are joined by slashes. -/
theorem fields_intercalate {l : List String} (ne : l ≠ [])
    (noSlash : ∀ s ∈ l, '/' ∉ s.toList) :
    Text.fields '/' ("/".intercalate l).toList = l.map String.toList := by
  rw [String.toList_intercalate]
  refine Text.fields_intercalate (by simpa using ne) fun part mem => ?_
  obtain ⟨s, isSegment, rfl⟩ := List.mem_map.1 mem
  exact noSlash s isSegment

/-- The segments of a path are joined to the path without the slashes at its ends. -/
theorem intercalate_segments (path : String) :
    ("/".intercalate (segments path)).toList = Text.strip (· = '/') path.toList := by
  rw [String.toList_intercalate, segments, List.map_map]
  simp [Text.intercalate_fields]

/-- A path has the segments that it is made of. -/
theorem IsMadeOf.segments_eq {path : String} {l : List String} (h : IsMadeOf path l) :
    segments path = l := by
  obtain ⟨before, after, joined⟩ := h.joined
  have slashes (n : Nat) : ∀ c ∈ List.replicate n '/', decide (c = '/') = true := fun c mem =>
    decide_eq_true (List.eq_of_mem_replicate mem)
  have stripped : Text.strip (· = '/') path.toList =
      Text.strip (· = '/') ("/".intercalate l).toList := by
    rw [joined, Text.strip_append_right (slashes after), Text.strip_append_left (slashes before)]
  unfold segments
  rw [stripped]
  obtain rfl | ⟨ne, first, last⟩ := h.ends
  · rfl
  · have fields := fields_intercalate ne h.noSlash
    cases l with
    | nil => exact absurd rfl ne
    | cons s rest =>
      have kept : Text.strip (· = '/') ("/".intercalate (s :: rest)).toList =
          ("/".intercalate (s :: rest)).toList := by
        refine Text.strip_of_fields ?_ ?_ fields
        · intro empty
          exact first (by rw [List.head?_cons, String.toList_eq_nil_iff.1 empty])
        · rw [← List.map_cons, List.getLast?_map]
          intro empty
          obtain ⟨t, isLast, noText⟩ := Option.map_eq_some_iff.1 empty
          exact last (by rw [isLast, String.toList_eq_nil_iff.1 noText])
      rw [kept, fields, List.map_map]
      simp

/-- An empty segment at an end would put a slash there. -/
theorem ends_of_intercalate {l : List String} (nonempty : ("/".intercalate l).toList ≠ [])
    (first : ∀ c ∈ ("/".intercalate l).toList.head?, decide (c = '/') = false)
    (last : ∀ c ∈ ("/".intercalate l).toList.getLast?, decide (c = '/') = false) :
    l ≠ [] ∧ l.head? ≠ some "" ∧ l.getLast? ≠ some "" := by
  refine ⟨?_, fun isFirst => ?_, fun isLast => ?_⟩
  · rintro rfl
    exact nonempty rfl
  · obtain ⟨rest, rfl⟩ := List.head?_eq_some_iff.1 isFirst
    cases rest with
    | nil => exact nonempty rfl
    | cons s rest =>
      have slash := first '/' (by simp [String.intercalate_cons_cons])
      exact absurd slash (by decide)
  · obtain ⟨front, rfl⟩ := List.getLast?_eq_some_iff.1 isLast
    by_cases none : front = []
    · subst none
      exact nonempty rfl
    · have slash := last '/' (by simp [String.intercalate_append_of_ne_nil none])
      exact absurd slash (by decide)

/-- A path is made of its segments. -/
theorem isMadeOf_segments (path : String) : IsMadeOf path (segments path) := by
  obtain ⟨⟨left, right, surrounded, before, after⟩, first, last⟩ :=
    Text.isCore_strip (· = '/') path.toList
  have slashes {s : List Char} (h : ∀ c ∈ s, decide (c = '/') = true) :
      s = List.replicate s.length '/' :=
    List.eq_replicate_iff.2 ⟨rfl, fun c mem => of_decide_eq_true (h c mem)⟩
  refine ⟨⟨left.length, right.length, ?_⟩, ?_, ?_⟩
  · rw [intercalate_segments, ← slashes before, ← slashes after]
    exact surrounded
  · intro s mem
    obtain ⟨part, isPart, rfl⟩ := List.mem_map.1 mem
    rw [String.toList_ofList]
    exact Text.notMem_of_mem_fields isPart
  · by_cases empty : Text.strip (· = '/') path.toList = []
    · refine .inl ?_
      rw [segments, empty]
      rfl
    · rw [← intercalate_segments] at first last empty
      exact .inr (ends_of_intercalate empty first last)

/-- A path is made of its segments, and of nothing else. -/
theorem segments_eq_iff {path : String} {l : List String} : segments path = l ↔ IsMadeOf path l :=
  ⟨fun same => same ▸ isMadeOf_segments path, IsMadeOf.segments_eq⟩

end Attributes

/-! ### Paths of resources -/

/-- A text that can stand between two slashes of a path. -/
structure Segment where
  text : String
  nonempty : text ≠ ""
  noSlash : '/' ∉ text.toList

namespace Segment

/-- What paths of resources of a group begin with. -/
def apis : Segment := ⟨"apis", by decide, by decide⟩

/-- What paths of resources without a group begin with. -/
def api : Segment := ⟨"api", by decide, by decide⟩

/-- What stands before a namespace. -/
def namespaces : Segment := ⟨"namespaces", by decide, by decide⟩

/-- There is no slash in the text of a segment. -/
theorem noSlash_of_mem_map {l : List Segment} {s : String} (h : s ∈ l.map text) :
    '/' ∉ s.toList := by
  obtain ⟨segment, -, rfl⟩ := List.mem_map.1 h
  exact segment.noSlash

/-- The text of a segment is not empty. -/
theorem map_text_ne_some {segment : Option Segment} : segment.map text ≠ some "" := by
  intro empty
  obtain ⟨segment, -, empty⟩ := Option.map_eq_some_iff.1 empty
  exact segment.nonempty empty

end Segment

/-- What a path says behind the resource. -/
inductive Subject where
  /-- Nothing: the resource is meant as a whole. -/
  | whole
  | object (name : Segment)
  /-- A part of an object, whatever follows it. -/
  | part (name subresource : Segment) (further : List String)
      (noSlash : ∀ s ∈ further, '/' ∉ s.toList)

namespace Subject

/-- The segments that count. -/
def names : Subject → List Segment
  | whole => []
  | object name => [name]
  | part name subresource _ _ => [name, subresource]

/-- The segments behind those that count. -/
def further : Subject → List String
  | part _ _ further _ => further
  | _ => []

/-- There is no slash in what follows the subject. -/
theorem noSlash_of_mem_further {subject : Subject} {s : String} (h : s ∈ subject.further) :
    '/' ∉ s.toList := by
  cases subject with
  | whole | object => exact absurd h List.not_mem_nil
  | part name subresource further noSlash => exact noSlash s h

end Subject

/-- The path of a resource, taken apart. -/
structure ResourcePath where
  /-- The group behind `apis`; a path that begins with `api` has none. -/
  group : Option Segment
  version : Segment
  namespaceName : Option Segment
  resource : Segment
  subject : Subject

namespace ResourcePath

/-- The segments before the version. -/
def root (p : ResourcePath) : List Segment :=
  match p.group with
  | some group => [.apis, group]
  | none => [.api]

/-- The segments of the namespace. -/
def inside (p : ResourcePath) : List Segment :=
  match p.namespaceName with
  | some name => [.namespaces, name]
  | none => []

/-- The segments that count. -/
def stem (p : ResourcePath) : List Segment :=
  p.root ++ p.version :: (p.inside ++ p.resource :: p.subject.names)

/-- All segments as they are written. -/
def written (p : ResourcePath) : List String :=
  p.stem.map Segment.text ++ p.subject.further

/-- The path as it is written, with more slashes at both ends. -/
def path (p : ResourcePath) (before after : Nat) : String :=
  String.ofList (List.replicate before '/') ++ "/" ++ "/".intercalate p.written ++
    String.ofList (List.replicate after '/')

/-- What the path says. A part of a resource `namespaces` that is in no namespace is not read as
such: its name is that of a namespace, and the resource comes behind it. -/
def attributes (p : ResourcePath) : Attributes :=
  let a : Attributes := {
    apiGroup := p.group.elim "" Segment.text
    apiVersion := p.version.text
    isResource := true }
  match p.namespaceName, p.resource.text, p.subject with
  | none, "namespaces", .part name subresource further _ =>
    { a with
      namespaceName := name.text
      resource := subresource.text
      name := further.head?.getD ""
      subresource := further.tail.head?.getD "" }
  | namespaceName, resource, subject =>
    { a with
      namespaceName := namespaceName.elim "" Segment.text
      resource
      name := subject.names.head?.elim "" Segment.text
      subresource := subject.names.tail.head?.elim "" Segment.text }

/-- A resource path names a resource. -/
theorem isResource_attributes (p : ResourcePath) : p.attributes.isResource = true := by
  unfold attributes
  split <;> rfl

/-- A resource path has a segment. -/
theorem stem_ne_nil (p : ResourcePath) : p.stem.map Segment.text ≠ [] := by
  simp [stem]

/-- A list of texts ends in some that are empty, behind one that is not, if there is one. -/
theorem exists_eq_append_replicate (further : List String) :
    ∃ kept n, further = kept ++ List.replicate n "" ∧ kept.getLast? ≠ some "" := by
  induction further using List.reverseRecOn with
  | nil => exact ⟨[], 0, rfl, by simp⟩
  | append_singleton rest s ih =>
    by_cases empty : s = ""
    · obtain ⟨kept, n, rfl, last⟩ := ih
      exact ⟨kept, n + 1, by rw [empty, List.replicate_succ', List.append_assoc], last⟩
    · exact ⟨rest ++ [s], 0, by simp, by simpa using empty⟩

/-- Empty texts at the end become slashes when texts are joined by slashes. -/
theorem intercalate_append_replicate {l : List String} (ne : l ≠ []) (n : Nat) :
    ("/".intercalate (l ++ List.replicate n "")).toList =
      ("/".intercalate l).toList ++ List.replicate n '/' := by
  induction n with
  | zero => simp
  | succ n ih =>
    rw [List.replicate_succ', ← List.append_assoc,
      String.intercalate_append_of_ne_nil (by simp [ne]) (by simp), String.toList_append,
      String.toList_append, ih, List.replicate_succ']
    simp

/-- The characters of a resource path. -/
theorem toList_path (p : ResourcePath) (before after : Nat) :
    (p.path before after).toList = List.replicate (before + 1) '/' ++
      ("/".intercalate p.written).toList ++ List.replicate after '/' := by
  simp [path, List.replicate_succ']

/-- The segments of a path are those that it is written with, but for empty ones at its end. -/
theorem exists_segments_eq (p : ResourcePath) (before after : Nat) :
    ∃ kept n, Attributes.segments (p.path before after) = p.stem.map Segment.text ++ kept ∧
      p.subject.further = kept ++ List.replicate n "" := by
  obtain ⟨kept, n, split, last⟩ := exists_eq_append_replicate p.subject.further
  have ne : p.stem.map Segment.text ++ kept ≠ [] :=
    List.append_ne_nil_of_left_ne_nil p.stem_ne_nil _
  refine ⟨kept, n, Attributes.segments_eq_iff.2
    ⟨⟨before + 1, n + after, ?_⟩, ?_, .inr ⟨ne, ?_, ?_⟩⟩, split⟩
  · rw [toList_path, written, split, ← List.append_assoc, intercalate_append_replicate ne,
      List.replicate_add n after]
    simp only [List.append_assoc]
  · intro s mem
    obtain mem | mem := List.mem_append.1 mem
    · exact Segment.noSlash_of_mem_map mem
    · exact Subject.noSlash_of_mem_further (split ▸ List.mem_append_left _ mem)
  · rw [List.head?_append_of_ne_nil _ p.stem_ne_nil, List.head?_map]
    exact Segment.map_text_ne_some
  · rw [List.getLast?_append]
    cases isLast : kept.getLast? with
    | none =>
      rw [Option.none_or, List.getLast?_map]
      exact Segment.map_text_ne_some
    | some s =>
      rw [isLast] at last
      exact last

end ResourcePath

/-! ### What is read from a path -/

namespace Attributes

/-- What is not in a namespace is placed at once. -/
theorem locate_of_ne {resource : String} (other : resource ≠ "namespaces") (a : Attributes)
    (rest : List String) : locate a (resource :: rest) = locate.place a resource rest := by
  unfold locate
  split
  · rename_i same
    exact absurd (List.cons.inj same).1 other
  · rename_i same
    obtain ⟨rfl, rfl⟩ := List.cons.inj same
    rfl
  · contradiction

/-- A resource that nothing follows but a name is read as such, whatever it is called. -/
theorem locate_of_length_le {rest : List String} (short : rest.length ≤ 1) (a : Attributes)
    (resource : String) : locate a (resource :: rest) = locate.place a resource rest := by
  unfold locate
  split
  · rename_i same
    obtain ⟨-, rfl⟩ := List.cons.inj same
    simp at short
  · rename_i same
    obtain ⟨rfl, rfl⟩ := List.cons.inj same
    rfl
  · contradiction

/-- What is located is a resource. -/
theorem isResource_locate (a : Attributes) (resource : String) (rest : List String) :
    (locate a (resource :: rest)).isResource = true := by
  unfold locate
  split
  · rfl
  · rfl
  · contradiction

/-- Segments that name a resource. -/
def NameResource (segments : List String) : Prop :=
  segments.head? = some "apis" ∧ 4 ≤ segments.length ∨
    segments.head? = some "api" ∧ 3 ≤ segments.length

/-- Segments either name a resource or change no attribute. -/
theorem ofSegments_cases (a : Attributes) (segments : List String) :
    NameResource segments ∧ (ofSegments a segments).isResource = true ∨
      ¬NameResource segments ∧ ofSegments a segments = a := by
  unfold ofSegments
  split
  · exact .inl ⟨.inl ⟨rfl, by simp⟩, isResource_locate _ _ _⟩
  · exact .inl ⟨.inr ⟨rfl, by simp⟩, isResource_locate _ _ _⟩
  · rename_i notGrouped notPlain
    refine .inr ⟨?_, rfl⟩
    rintro (⟨first, long⟩ | ⟨first, long⟩)
    · obtain ⟨rest, rfl⟩ := List.head?_eq_some_iff.1 first
      match rest, long with
      | group :: version :: resource :: rest, _ => exact notGrouped _ _ _ _ rfl
    · obtain ⟨rest, rfl⟩ := List.head?_eq_some_iff.1 first
      match rest, long with
      | version :: resource :: rest, _ => exact notPlain _ _ _ rfl

/-- The verb of a method, for a resource that has a name or not. -/
inductive IsVerb (named : Prop) : String → String → Prop where
  | create : IsVerb named "POST" "create"
  | get {method : String} (reads : method = "GET" ∨ method = "HEAD") (isNamed : named) :
      IsVerb named method "get"
  | list {method : String} (reads : method = "GET" ∨ method = "HEAD") (notNamed : ¬named) :
      IsVerb named method "list"
  | update : IsVerb named "PUT" "update"
  | patch : IsVerb named "PATCH" "patch"
  | delete (isNamed : named) : IsVerb named "DELETE" "delete"
  | deleteAll (notNamed : ¬named) : IsVerb named "DELETE" "deletecollection"
  | other {method : String}
      (unknown : method ∉ ["POST", "GET", "HEAD", "PUT", "PATCH", "DELETE"]) :
      IsVerb named method ""

/-- The program finds the verb of a method. -/
theorem isVerb_iff {named : Prop} [Decidable named] {method verb : String} :
    IsVerb named method verb ↔ resourceVerb method (decide named) = verb := by
  constructor
  · intro isVerb
    cases isVerb with
    | create | update | patch => rfl
    | get reads isNamed => obtain rfl | rfl := reads <;> simp [resourceVerb, isNamed]
    | list reads notNamed => obtain rfl | rfl := reads <;> simp [resourceVerb, notNamed]
    | delete isNamed => simp [resourceVerb, isNamed]
    | deleteAll notNamed => simp [resourceVerb, notNamed]
    | other unknown => simp_all [resourceVerb]
  · rintro rfl
    have reading {method : String} (reads : method = "GET" ∨ method = "HEAD") :
        IsVerb named method (if decide named = true then "get" else "list") := by
      split
      · exact .get reads (of_decide_eq_true ‹_›)
      · exact .list reads (mt decide_eq_true ‹_›)
    unfold resourceVerb
    split
    · exact .create
    · exact reading (.inl rfl)
    · exact reading (.inr rfl)
    · exact .update
    · exact .patch
    · split
      · exact .delete (of_decide_eq_true ‹_›)
      · exact .deleteAll (mt decide_eq_true ‹_›)
    · exact .other (by simp_all)

/-- Empty segments at the end count for what absent ones do. -/
theorem getElem?_append_replicate (kept : List String) (n i : Nat) :
    (kept ++ List.replicate n "")[i]?.getD "" = kept[i]?.getD "" := by
  rw [List.getElem?_append]
  split
  · rfl
  · rename_i outside
    rw [List.getElem?_eq_none (Nat.le_of_not_lt outside), List.getElem?_replicate]
    split <;> rfl

/-- Empty segments at the end name nothing. -/
theorem place_append_replicate (a : Attributes) (resource : String) (kept : List String) (n : Nat) :
    locate.place a resource (kept ++ List.replicate n "") = locate.place a resource kept := by
  have read (rest : List String) : locate.place a resource rest =
      { a with
        resource
        name := rest[0]?.getD ""
        subresource := rest[1]?.getD ""
        isResource := true } := by
    match rest with
    | [] | [_] | _ :: _ :: _ => rfl
  rw [read, read, getElem?_append_replicate, getElem?_append_replicate]

/-- What stands before the namespace is read alike in all paths. -/
theorem ofSegments_stem_append (p : ResourcePath) (user : Option Identity) (path : String)
    (rest : List String) :
    ofSegments { user, path } (p.stem.map Segment.text ++ rest) =
      locate { user, path, apiGroup := p.group.elim "" Segment.text, apiVersion := p.version.text }
        (p.inside.map Segment.text ++
          p.resource.text :: (p.subject.names.map Segment.text ++ rest)) := by
  obtain ⟨group, version, namespaceName, resource, subject⟩ := p
  cases group <;> cases namespaceName <;> rfl

/-- The segments of a resource path are read as its parts. -/
theorem ofSegments_stem (p : ResourcePath) (user : Option Identity) (path : String)
    {kept : List String} {n : Nat} (further : p.subject.further = kept ++ List.replicate n "") :
    ofSegments { user, path } (p.stem.map Segment.text ++ kept) =
      { p.attributes with user, path } := by
  rw [ofSegments_stem_append]
  obtain ⟨group, version, namespaceName, ⟨resource, nonempty, noSlash⟩, subject⟩ := p
  -- two segments behind the resource are all that count
  have placed (a : Attributes) :
      locate.place a resource (subject.names.map Segment.text ++ kept) =
        { a with
          resource
          name := subject.names.head?.elim "" Segment.text
          subresource := subject.names.tail.head?.elim "" Segment.text
          isResource := true } := by
    cases subject with
    | part name subresource further noSlash => rfl
    | whole | object =>
      obtain rfl : kept = [] := (List.append_eq_nil_iff.1 further.symm).1
      rfl
  cases namespaceName with
  | some name => exact placed _
  | none =>
    by_cases other : resource = "namespaces"
    · subst other
      cases subject with
      | part name subresource further' noSlash =>
        obtain rfl : further' = kept ++ List.replicate n "" := further
        change locate.place _ subresource.text kept = _
        rw [← place_append_replicate _ _ kept n]
        rfl
      | whole | object =>
        obtain rfl : kept = [] := (List.append_eq_nil_iff.1 further.symm).1
        exact (locate_of_length_le (by simp [Subject.names]) _ _).trans (placed _)
    · refine (locate_of_ne other _ _).trans ((placed _).trans ?_)
      simp only [ResourcePath.attributes]
      split
      · exact absurd rfl other
      · rfl

/-- **The attributes invert the scheme of paths**: a path written from the parts of a resource gives
back these parts, and any path at all names a resource exactly when its segments do. -/
theorem resolve_inverts (method : String) (user : Option Identity) :
    (∀ (p : ResourcePath) (before after : Nat), ∃ verb,
      IsVerb (p.attributes.name ≠ "") method verb ∧
        resolve method (p.path before after) user =
          { p.attributes with user, path := p.path before after, verb }) ∧
    ∀ path, ∃ segments, (∀ l, IsMadeOf path l ↔ l = segments) ∧
      (NameResource segments ∧ (resolve method path user).isResource = true ∨
        ¬NameResource segments ∧
          resolve method path user = { user, path, verb := Text.toLower method }) := by
  constructor
  · intro p before after
    obtain ⟨kept, n, made, further⟩ := p.exists_segments_eq before after
    have read := ofSegments_stem p user (p.path before after) further
    refine ⟨resourceVerb method (p.attributes.name ≠ ""), isVerb_iff.2 rfl, ?_⟩
    rw [resolve, made, read]
    simp [p.isResource_attributes]
  · intro path
    refine ⟨segments path, fun l => segments_eq_iff.symm.trans eq_comm, ?_⟩
    obtain ⟨names, isResource⟩ | ⟨notNames, same⟩ := ofSegments_cases { user, path } (segments path)
    · exact .inl ⟨names, isResource⟩
    · refine .inr ⟨notNames, ?_⟩
      rw [resolve, same]
      rfl

/-- Behind `namespaces` a name is that of a namespace as soon as something follows it. -/
example : resolve "GET" "/api/v1/namespaces/a/pods/" none =
    { path := "/api/v1/namespaces/a/pods/", verb := "list", apiVersion := "v1",
      namespaceName := "a", resource := "pods", isResource := true } := by
  decide +kernel

end Attributes

end TokenAuthority
