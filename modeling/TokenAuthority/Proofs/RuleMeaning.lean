/-
# What the rules of a policy mean

| list | what fits it |
| --- | --- |
| `users` | a caller of a name that it has |
| `groups` | a caller with a group that it has |
| `verbs` | a request with a verb that it has |
| `apiGroups`, `resources` | a request for a resource that they have |
| `nonResourceUrls` | a request for a path that an entry covers |

A rule matches a request if the caller fits `users` or `groups` and the request fits `verbs` and the
lists for what it asks for. `Authorizer.rules_decide` says that the authorizer answers by the first
rule that matches.

Everything fits a list with a wildcard, but for one exception (`PolicyRule.wildcard_lifts`): in
`groups` the wildcard stands for every group, and a caller without groups has none that it could
stand for. So a rule for the groups `*` is declared to be for everyone and is not
(`PolicyRule.appliesTo_iff_declaredFor`).
-/

import TokenAuthority.Proofs.Filters

namespace TokenAuthority
namespace PolicyRule

/-- An entry is for one path, or for all that begin like it. -/
def CoversPath (entry path : String) : Prop :=
  entry = path ∨ ∃ stem, entry = stem ++ wildcard ∧ stem.toList <+: path.toList

/-- The program finds out whether an entry is for a path. -/
theorem coversPath_iff {entry path : String} :
    coversPath entry path = true ↔ CoversPath entry path := by
  have reversed {stem : String} :
      (stem ++ wildcard).toList.reverse = '*' :: stem.toList.reverse := by
    rw [String.toList_append, List.reverse_append]
    rfl
  unfold coversPath
  split
  · rename_i stem split
    have toList : entry.toList = stem.reverse ++ ['*'] := by
      rw [← List.reverse_reverse entry.toList, split, List.reverse_cons]
    rw [List.isPrefixOf_iff_prefix]
    constructor
    · intro begins
      refine .inr ⟨String.ofList stem.reverse, String.toList_inj.1 ?_, ?_⟩
      · rw [toList, String.toList_append, String.toList_ofList]
        rfl
      · rwa [String.toList_ofList]
    · rintro (rfl | ⟨text, rfl, begins⟩)
      · exact ⟨['*'], toList.symm⟩
      · obtain ⟨-, rfl⟩ := List.cons.inj (reversed.symm.trans split)
        rwa [List.reverse_reverse]
  · rename_i noWildcard
    rw [decide_eq_true_iff]
    refine ⟨.inl, ?_⟩
    rintro (same | ⟨text, rfl, -⟩)
    · exact same
    · exact absurd reversed (noWildcard _)

/-- The lists of a rule. -/
inductive Restriction where
  | users
  | groups
  | verbs
  | apiGroups
  | resources
  | nonResourceUrls
deriving DecidableEq

/-- The entries of a list. -/
def entries (r : PolicyRule) : Restriction → List String
  | .users => r.users
  | .groups => r.groups
  | .verbs => r.verbs
  | .apiGroups => r.apiGroups
  | .resources => r.resources
  | .nonResourceUrls => r.nonResourceUrls

/-- A user, or what the user asks for, fits a list. A subresource is listed as
`resource/subresource`. -/
def Fits (r : PolicyRule) (user : Identity) (a : Attributes) : Restriction → Prop
  | .users => Names r.users user.name
  | .groups => ∃ group ∈ user.groups, Names r.groups group
  | .verbs => Names r.verbs a.verb
  | .apiGroups => Names r.apiGroups a.apiGroup
  | .resources => Names r.resources
    (if a.subresource = "" then a.resource else a.resource ++ "/" ++ a.subresource)
  | .nonResourceUrls => ∃ entry ∈ r.nonResourceUrls, CoversPath entry a.path

namespace Restriction

/-- The lists that concern what is asked for. -/
def concerning (a : Attributes) : List Restriction :=
  .verbs :: if a.isResource then [.apiGroups, .resources] else [.nonResourceUrls]

/-- A request with what a list restricts taken from another one. -/
def exchange (a b : Attributes) : Restriction → Attributes
  | .users | .groups => { a with user := b.user }
  | .verbs => { a with verb := b.verb }
  | .apiGroups => { a with apiGroup := b.apiGroup }
  | .resources => { a with resource := b.resource, subresource := b.subresource }
  | .nonResourceUrls => { a with path := b.path }

/-- The groups do not concern what is asked for. -/
theorem groups_notMem_concerning (a : Attributes) : groups ∉ concerning a := by
  unfold concerning
  split <;> decide

/-- A request concerns the same lists when something in it is exchanged. -/
theorem concerning_exchange (k : Restriction) (a b : Attributes) :
    concerning (k.exchange a b) = concerning a := by
  cases k <;> rfl

end Restriction

variable {r : PolicyRule} {a b : Attributes} {user : Identity} {k : Restriction}

/-- A rule permits what fits all of its lists that concern it. -/
theorem permits_iff (user : Identity) :
    r.permits a = true ↔ ∀ k ∈ Restriction.concerning a, r.Fits user a k := by
  unfold permits Restriction.concerning
  rw [Bool.and_eq_true, names_iff, List.forall_mem_cons]
  refine and_congr_right fun _ => ?_
  split
  · rw [Bool.and_eq_true, names_iff, names_iff, List.forall_mem_cons, List.forall_mem_singleton]
    rfl
  · simp only [List.any_eq_true, coversPath_iff, List.forall_mem_singleton]
    rfl

/-- A rule matches a request. -/
def Matches (r : PolicyRule) (a : Attributes) : Prop :=
  ∃ user, a.user = some user ∧ r.AppliesTo user ∧
    ∀ k ∈ Restriction.concerning a, r.Fits user a k

/-- The program finds out whether a rule matches a request. -/
theorem allows_iff_matches : r.allows a = true ↔ r.Matches a := by
  unfold allows
  cases asker : a.user with
  | none => simp [Matches, asker]
  | some user => simp [Matches, asker, appliesTo_iff, permits_iff user]

/-! ### Wildcards -/

/-- A user fits the groups by a group in the list, or by having one where the list has the wildcard.
-/
theorem fits_groups_iff :
    r.Fits user a .groups ↔
      (∃ group ∈ user.groups, group ∈ r.groups) ∨ wildcard ∈ r.groups ∧ user.groups ≠ [] := by
  constructor
  · rintro ⟨group, mem, all | named⟩
    · exact .inr ⟨all, List.ne_nil_of_mem mem⟩
    · exact .inl ⟨group, mem, named⟩
  · rintro (⟨group, mem, named⟩ | ⟨all, ne⟩)
    · exact ⟨group, mem, .inr named⟩
    · obtain ⟨group, mem⟩ := List.exists_mem_of_ne_nil _ ne
      exact ⟨group, mem, .inl all⟩

/-- What a rule is declared to be for: the users and groups that it lists, or everyone if one of the
lists has the wildcard. -/
def DeclaredFor (r : PolicyRule) (user : Identity) : Prop :=
  Names r.users user.name ∨ (∃ group ∈ user.groups, group ∈ r.groups) ∨ wildcard ∈ r.groups

/-- **A rule is not for all that it is declared to be for**: the groups `*` leave out a caller
without groups. -/
theorem appliesTo_iff_declaredFor :
    r.AppliesTo user ↔ r.DeclaredFor user ∧
      (wildcard ∈ r.groups → Names r.users user.name ∨ user.groups ≠ []) := by
  have groups : (∃ group ∈ user.groups, Names r.groups group) ↔ _ :=
    fits_groups_iff (a := {})
  rw [AppliesTo, DeclaredFor, groups]
  constructor
  · rintro (named | ⟨group, mem, listed⟩ | ⟨all, ne⟩)
    · exact ⟨.inl named, fun _ => .inl named⟩
    · exact ⟨.inr (.inl ⟨group, mem, listed⟩), fun _ => .inr (List.ne_nil_of_mem mem)⟩
    · exact ⟨.inr (.inr all), fun _ => .inr ne⟩
  · rintro ⟨named | listed | all, grouped⟩
    · exact .inl named
    · exact .inr (.inl listed)
    · exact (grouped all).imp_right fun ne => .inr ⟨all, ne⟩

/-- What a rule is declared to match. -/
def Declared (r : PolicyRule) (a : Attributes) : Prop :=
  ∃ user, a.user = some user ∧ r.DeclaredFor user ∧
    ∀ k ∈ Restriction.concerning a, r.Fits user a k

/-- A rule matches what it is declared to match, unless it is for the caller by the groups `*` only
and the caller has no groups. -/
theorem matches_iff_declared :
    r.Matches a ↔ r.Declared a ∧ ∀ user, a.user = some user → wildcard ∈ r.groups →
      Names r.users user.name ∨ user.groups ≠ [] := by
  constructor
  · rintro ⟨user, asker, isFor, fits⟩
    obtain ⟨declared, grouped⟩ := appliesTo_iff_declaredFor.1 isFor
    refine ⟨⟨user, asker, declared, fits⟩, fun user' asker' => ?_⟩
    obtain rfl : user = user' := Option.some.inj (asker.symm.trans asker')
    exact grouped
  · rintro ⟨⟨user, asker, declared, fits⟩, grouped⟩
    exact ⟨user, asker, appliesTo_iff_declaredFor.2 ⟨declared, grouped user asker⟩, fits⟩

/-- Everyone and everything fits a list with the wildcard, except that a user without groups does
not fit the groups. -/
theorem fits_of_wildcard (all : wildcard ∈ r.entries k) :
    r.Fits user a k ↔ (k = .groups → user.groups ≠ []) := by
  cases k with
  | users | verbs | apiGroups | resources => exact iff_of_true (.inl all) nofun
  | groups =>
    rw [fits_groups_iff]
    constructor
    · rintro (⟨group, mem, -⟩ | ⟨-, ne⟩) -
      · exact List.ne_nil_of_mem mem
      · exact ne
    · exact fun ne => .inr ⟨all, ne rfl⟩
  | nonResourceUrls =>
    exact iff_of_true ⟨wildcard, all, .inr ⟨"", rfl, List.nil_prefix⟩⟩ nofun

/-- What a list does not restrict can be exchanged. -/
theorem fits_exchange {k' : Restriction} (other : k' ≠ k) :
    r.Fits user (k.exchange a b) k' ↔ r.Fits user a k' := by
  cases k <;> cases k' <;> first | exact Iff.rfl | exact absurd rfl other

/-- A list with the wildcard drops out of what a rule permits. -/
theorem permits_iff_of_wildcard (all : wildcard ∈ r.entries k) (user : Identity) :
    r.permits a = true ↔ ∀ k' ∈ Restriction.concerning a, k' ≠ k → r.Fits user a k' := by
  rw [permits_iff user]
  constructor
  · exact fun fits k' mem _ => fits k' mem
  · intro others k' mem
    by_cases same : k' = k
    · subst same
      refine (fits_of_wildcard all).2 ?_
      rintro rfl
      exact absurd mem (Restriction.groups_notMem_concerning a)
    · exact others k' mem same

/-- What a rule permits does not depend on what a list with the wildcard is about. -/
theorem permits_exchange (all : wildcard ∈ r.entries k) :
    r.permits (k.exchange a b) = r.permits a := by
  rw [Bool.eq_iff_iff, permits_iff_of_wildcard all {}, permits_iff_of_wildcard all {},
    Restriction.concerning_exchange]
  exact forall₃_congr fun k' _ other => fits_exchange other

/-- **A wildcard removes its restriction**, except that the groups `*` restrict a rule to callers
with a group. What a rule permits is the same for all requests that differ in nothing but what a
list with the wildcard is about. -/
theorem wildcard_lifts (all : wildcard ∈ r.entries k) (user : Identity) (a : Attributes) :
    (r.Fits user a k ↔ (k = .groups → user.groups ≠ [])) ∧
    (k = .users → r.appliesTo user = true) ∧
    (k = .groups → (r.appliesTo user = true ↔ Names r.users user.name ∨ user.groups ≠ [])) ∧
    (r.permits a = true ↔ ∀ k' ∈ Restriction.concerning a, k' ≠ k → r.Fits user a k') ∧
    ∀ b, r.permits (k.exchange a b) = r.permits a := by
  refine ⟨fits_of_wildcard all, ?_, ?_, permits_iff_of_wildcard all user,
    fun b => permits_exchange all⟩
  · rintro rfl
    exact appliesTo_iff.2 (.inl (.inl all))
  · rintro rfl
    rw [appliesTo_iff, appliesTo_iff_declaredFor]
    exact ⟨fun h => h.2 all, fun h => ⟨.inr (.inr all), fun _ => h⟩⟩

/-- A rule for the groups `*` is for `bob` by a group that it does not list. -/
theorem wildcard_lifts_staff :
    wildcard ∈ ({ groups := ["*"] } : PolicyRule).entries .groups ∧
      (({ groups := ["*"] } : PolicyRule).appliesTo { name := "bob", groups := ["staff"] } = true ↔
        Names [] "bob" ∨ ["staff"] ≠ []) :=
  have all : wildcard ∈ ({ groups := ["*"] } : PolicyRule).entries .groups :=
    List.mem_singleton_self _
  ⟨all, (wildcard_lifts all { name := "bob", groups := ["staff"] } {}).2.2.1 rfl⟩

/-- A rule for all groups is not for a caller who is in none. -/
theorem wildcard_keeps_groupless :
    let r : PolicyRule :=
      { groups := ["*"], verbs := ["*"], apiGroups := ["*"], resources := ["*"] }
    wildcard ∈ r.entries .groups ∧ r.appliesTo (.named "bob") = false := by
  decide

end PolicyRule

/-! ### Decisions -/

/-- Two requests that the rules tell apart by nothing. -/
structure Attributes.SeenAlike (a b : Attributes) : Prop where
  caller : a.user.map (fun user => (user.name, user.groups)) =
    b.user.map fun user => (user.name, user.groups)
  verb : a.verb = b.verb
  isResource : a.isResource = b.isResource
  resource : a.isResource = true →
    a.apiGroup = b.apiGroup ∧ a.resource = b.resource ∧ a.subresource = b.subresource
  path : a.isResource = false → a.path = b.path

/-- A rule allows both of two requests that it does not tell apart, or neither. -/
theorem PolicyRule.allows_eq_of_seenAlike {r : PolicyRule} {a b : Attributes} (h : a.SeenAlike b) :
    r.allows a = r.allows b := by
  have permits : r.permits a = r.permits b := by
    unfold permits resourceText
    rw [← h.verb, ← h.isResource]
    split
    · rename_i isResource
      obtain ⟨apiGroup, resource, subresource⟩ := h.resource isResource
      rw [apiGroup, resource, subresource]
    · rename_i other
      rw [h.path (Bool.eq_false_iff.2 other)]
  have caller := h.caller
  unfold allows
  rw [permits]
  cases asker : a.user with
  | none =>
    rw [asker] at caller
    rw [Option.map_eq_none_iff.1 caller.symm]
  | some user =>
    rw [asker] at caller
    obtain ⟨user', asker', same⟩ := Option.map_eq_some_iff.1 caller.symm
    obtain ⟨name, groups⟩ := Prod.mk.inj same
    rw [asker']
    simp only [appliesTo, name, groups]

namespace Authorizer

open PolicyRule

variable {policy : List PolicyRule} {a b : Attributes}

/-- What is said of a request: the first rule that matches it allows it. -/
inductive Answers (policy : List PolicyRule) (a : Attributes) : Authorization → Prop where
  | allow {i : Nat} {rule : PolicyRule} (found : policy[i]? = some rule) (isMatch : rule.Matches a)
      (first : ∀ j < i, ∀ earlier, policy[j]? = some earlier → ¬earlier.Matches a) :
      Answers policy a ⟨.allow, "allowed by policy rule " ++ toString i⟩
  | noOpinion (noMatch : ∀ rule ∈ policy, ¬rule.Matches a) : Answers policy a ⟨.noOpinion, ""⟩

/-- A policy answers by the first rule that matches. -/
theorem exists_answers (policy : List PolicyRule) (a : Attributes) :
    ∃ said, (rules policy a : Task _) = .done (.ok said) ∧ Answers policy a said := by
  refine ⟨_, rfl, ?_⟩
  split
  · rename_i i found
    obtain ⟨inside, allows, earlier⟩ := List.findIdx?_eq_some_iff_getElem.1 found
    refine .allow (List.getElem?_eq_getElem inside) (allows_iff_matches.1 allows) ?_
    intro j before rule at_j isMatch
    obtain ⟨_, rfl⟩ := List.getElem?_eq_some_iff.1 at_j
    exact earlier j before (allows_iff_matches.2 isMatch)
  · rename_i none
    refine .noOpinion fun rule mem isMatch => ?_
    exact Bool.false_ne_true
      ((List.findIdx?_eq_none_iff.1 none rule mem).symm.trans (allows_iff_matches.2 isMatch))

/-- A request is allowed. -/
def Allows (policy : List PolicyRule) (a : Attributes) : Prop :=
  ∃ reason, (rules policy a : Task _) = .done (.ok ⟨.allow, reason⟩)

/-- A request is allowed exactly when a rule matches it. -/
theorem allows_iff : Allows policy a ↔ ∃ rule ∈ policy, rule.Matches a := by
  obtain ⟨said, answer, isAnswer⟩ := exists_answers policy a
  unfold Allows
  rw [answer]
  cases isAnswer with
  | allow found isMatch first =>
    exact iff_of_true ⟨_, rfl⟩ ⟨_, List.mem_of_getElem? found, isMatch⟩
  | noOpinion noMatch =>
    refine iff_of_false nofun ?_
    rintro ⟨rule, mem, isMatch⟩
    exact noMatch rule mem isMatch

/-- Requests that rules do not tell apart are answered alike. -/
theorem rules_eq_of_seenAlike (h : a.SeenAlike b) :
    (rules policy a : Task _) = rules policy b := by
  have same : (fun r : PolicyRule => r.allows a) = fun r => r.allows b :=
    funext fun r => allows_eq_of_seenAlike h
  unfold rules
  rw [same]

/-- **The rules of a policy decide by their meaning.** They neither fail nor deny, and allow what
one of them matches; the first such rule is the reason. So rules that are added take nothing back,
what is allowed does not depend on their order, and requests that they see alike are answered alike.
A rule matches what it is declared to match, unless it is declared to be for the caller by the
groups `*` only, and the caller has no groups. -/
theorem rules_decide (policy : List PolicyRule) (a : Attributes) :
    (∃ said, (rules policy a : Task _) = .done (.ok said) ∧ Answers policy a said) ∧
    (∀ rule : PolicyRule, rule.Matches a ↔ rule.Declared a ∧ ∀ user, a.user = some user →
      wildcard ∈ rule.groups → Names rule.users user.name ∨ user.groups ≠ []) ∧
    (∀ more, policy.Sublist more → Allows policy a → Allows more a) ∧
    (∀ other, policy.Perm other → (Allows policy a ↔ Allows other a)) ∧
    ∀ b, a.SeenAlike b → (rules policy a : Task _) = rules policy b := by
  refine ⟨exists_answers policy a, fun rule => matches_iff_declared, ?_, ?_,
    fun b => rules_eq_of_seenAlike⟩
  · intro more kept allowed
    obtain ⟨rule, mem, isMatch⟩ := allows_iff.1 allowed
    exact allows_iff.2 ⟨rule, kept.subset mem, isMatch⟩
  · intro other moved
    simp only [allows_iff, moved.mem_iff]

/-- What the staff may read it may read still when a rule is put in front. -/
theorem rules_decide_added :
    let staff : PolicyRule := { groups := ["staff"], verbs := ["get"], nonResourceUrls := ["/v*"] }
    let bob : Identity := { name := "bob", groups := ["staff"] }
    let a := Attributes.resolve "GET" "/version" (some bob)
    [staff].Sublist [{}, staff] ∧ Allows [staff] a ∧ Allows [{}, staff] a := by
  intro staff bob a
  have kept : [staff].Sublist [{}, staff] := List.sublist_cons_self _ _
  have allowed : Allows [staff] a :=
    allows_iff.2 ⟨staff, List.mem_singleton_self _, allows_iff_matches.1 (by decide)⟩
  exact ⟨kept, allowed, (rules_decide [staff] a).2.2.1 _ kept allowed⟩

/-- A rule for all groups does not match a request of a caller who is in none. -/
theorem rules_leave_out_groupless :
    let everyone : PolicyRule := { groups := ["*"], verbs := ["*"], nonResourceUrls := ["*"] }
    let a := Attributes.resolve "GET" "/version" (some (.named "bob"))
    everyone.Declared a ∧ (rules [everyone] a : Task _) = .done (.ok ⟨.noOpinion, ""⟩) := by
  intro everyone a
  refine ⟨⟨.named "bob", rfl, .inr (.inr (List.mem_singleton_self _)), ?_⟩, by rfl⟩
  exact (permits_iff (.named "bob")).1 (by decide)

end Authorizer
end TokenAuthority
