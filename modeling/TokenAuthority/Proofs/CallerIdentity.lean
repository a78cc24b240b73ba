/-
# Who a caller is

A caller shows a bearer token, and the server looks for it among the configured tokens first and the
stored ones second:

| the token | the caller is | what is stored |
| --- | --- | --- |
| is configured | whom the last of its entries names | is not asked for |
| is not configured | whom the stored token stands for, if it is in force | decides alone |

An entry whose token is empty, or has a blank at an end, is for nobody: such a token is never read
from a request (`StaticToken.isCarriable_of_carries`), so the entry may as well be missing
(`App.callerAuthenticator_filter_isCarriable`).
-/

import TokenAuthority.Proofs.BearerGrammar

namespace TokenAuthority

open Http (Header)

/-! ### What a request carries -/

namespace Bearer

/-- Of the characters that a field may hold, the blanks are the blank ones. -/
theorem isBlank_of_printable {c : Char} (printable : c.toNat = 9 ∨ 32 ≤ c.toNat ∧ c.toNat ≤ 126)
    (blank : Text.isBlank c = true) : isBlank c = true := by
  have all : ∀ n < 127, Text.isBlank (Char.ofNat n) = true → n = 9 ∨ 32 ≤ n →
      isBlank (Char.ofNat n) = true := by
    decide
  have named := all c.toNat (by omega)
  rw [c.ofNat_toNat] at named
  exact named blank (by omega)

/-- A token that is read from a field neither begins nor ends with a blank character. -/
theorem Bears.ends {value : List UInt8} {token : String} (bears : Bears value token) :
    (∀ c ∈ token.toList.head?, Text.isBlank c = false) ∧
      ∀ c ∈ token.toList.getLast?, Text.isBlank c = false := by
  obtain ⟨printable, form, -, -, core⟩ := bears
  rename_i blanks scheme rest
  have legible (c : Char) (mem : c ∈ token.toList) :
      c.toNat = 9 ∨ 32 ≤ c.toNat ∧ c.toNat ≤ 126 := by
    obtain ⟨left, right, split, -, -⟩ := core.surrounded
    have inValue : c ∈ value.map fun b => Char.ofNat b.toNat := by
      rw [form, split]
      simp [mem]
    obtain ⟨b, isByte, rfl⟩ := List.mem_map.1 inValue
    have small : ∀ n < 256, (Char.ofNat n).toNat = n := by decide +kernel
    have bounds := printable b isByte
    simp only [UInt8.le_iff_toNat_le, ← UInt8.toNat_inj] at bounds
    rw [small _ b.toNat_lt]
    exact bounds
  have kept {c : Char} (mem : c ∈ token.toList) (noBlank : isBlank c = false) :
      Text.isBlank c = false :=
    Bool.eq_false_iff.2 fun blank =>
      Bool.false_ne_true (noBlank.symm.trans (isBlank_of_printable (legible c mem) blank))
  exact ⟨fun c first => kept (List.mem_of_head? first) (core.first c first),
    fun c last => kept (List.mem_of_getLast? last) (core.last c last)⟩

end Bearer

/-! ### Configured tokens -/

namespace StaticToken

variable {tokens : List StaticToken} {entry : StaticToken} {token : String}

/-- The last entry of a token. -/
def IsLast (tokens : List StaticToken) (token : String) (entry : StaticToken) : Prop :=
  ∃ before after, tokens = before ++ entry :: after ∧ entry.token = token ∧
    ∀ other ∈ after, other.token ≠ token

/-- Whether a request can carry the token of an entry: it is not empty, and neither end is blank. -/
def isCarriable (entry : StaticToken) : Bool :=
  entry.token ≠ "" && entry.token.toList.head?.all (!Text.isBlank ·) &&
    entry.token.toList.getLast?.all (!Text.isBlank ·)

/-- What a request carries can be carried. -/
theorem isCarriable_of_carries {headers : List Header} (given : entry.token ≠ "")
    (carries : Bearer.Carries headers entry.token) : entry.isCarriable = true := by
  obtain ⟨field, -, bears⟩ := carries
  obtain ⟨first, last⟩ := bears.ends
  simp only [isCarriable, Bool.and_eq_true, decide_eq_true_eq, Option.all_eq_true,
    Bool.not_eq_true']
  exact ⟨⟨given, first⟩, last⟩

/-- A token is looked up from the last entry to the first. -/
theorem lookup?_eq_find? (given : token ≠ "") :
    lookup? tokens token = tokens.reverse.find? (·.token = token) :=
  if_neg given

/-- The last entry of a token counts. -/
theorem lookup?_eq_some_iff (given : token ≠ "") :
    lookup? tokens token = some entry ↔ IsLast tokens token entry := by
  rw [lookup?_eq_find? given, List.find?_eq_some_iff_append]
  simp only [decide_eq_true_eq, Bool.not_eq_true', decide_eq_false_iff_not]
  constructor
  · rintro ⟨named, later, earlier, reversed, others⟩
    refine ⟨earlier.reverse, later.reverse, ?_, named, fun other mem =>
      others other (List.mem_reverse.1 mem)⟩
    rw [← List.reverse_reverse tokens, reversed]
    simp
  · rintro ⟨before, after, rfl, named, others⟩
    exact ⟨named, after.reverse, before.reverse, by simp, fun other mem =>
      others other (List.mem_reverse.1 mem)⟩

/-- A token that is configured has a last entry. -/
theorem exists_isLast (given : token ≠ "") (listed : ∃ entry ∈ tokens, entry.token = token) :
    ∃ entry, IsLast tokens token entry := by
  have isSome : (lookup? tokens token).isSome = true := by
    rw [lookup?_eq_find? given, List.find?_isSome]
    obtain ⟨entry, mem, named⟩ := listed
    exact ⟨entry, List.mem_reverse.2 mem, decide_eq_true named⟩
  obtain ⟨entry, found⟩ := Option.isSome_iff_exists.1 isSome
  exact ⟨entry, (lookup?_eq_some_iff given).1 found⟩

/-- Where a request carries a token, the entries that cannot be carried do not matter. -/
theorem lookup?_filter_isCarriable {headers : List Header} (given : token ≠ "")
    (carries : Bearer.Carries headers token) :
    lookup? (tokens.filter (·.isCarriable)) token = lookup? tokens token := by
  rw [lookup?_eq_find? given, lookup?_eq_find? given, ← List.filter_reverse, List.find?_filter]
  congr 1
  funext entry
  by_cases named : entry.token = token
  · subst named
    simp [isCarriable_of_carries given carries]
  · simp [named]

end StaticToken

namespace TokenAuthenticator

variable {tokens tokens' : List StaticToken} {token : String}

/-- What is configured for other tokens does not matter to a union. -/
theorem union_static_congr (member : TokenAuthenticator Task) (audiences : Option Audiences)
    (same : StaticToken.lookup? tokens token = StaticToken.lookup? tokens' token) :
    union [static tokens, member] token audiences =
      union [static tokens', member] token audiences := by
  have said : (static tokens : TokenAuthenticator Task) token audiences =
      static tokens' token audiences := by
    unfold static
    rw [same]
  unfold union firstAccepted
  rw [said]

/-- A configured token is accepted at once. -/
theorem union_static_of_isLast (member : TokenAuthenticator Task) (audiences : Option Audiences)
    {entry : StaticToken} (given : token ≠ "") (isLast : StaticToken.IsLast tokens token entry) :
    union [static tokens, member] token audiences =
      .done (.ok (some { user := entry.identity })) := by
  unfold union firstAccepted static
  rw [(StaticToken.lookup?_eq_some_iff given).2 isLast]
  rfl

end TokenAuthenticator

namespace App

variable {tokens : List StaticToken}

/-- The entries whose tokens no request can carry may as well be missing. -/
theorem callerAuthenticator_filter_isCarriable (s : Settings) :
    (callerAuthenticator s (tokens.filter (·.isCarriable)) : RequestAuthenticator Task) =
      callerAuthenticator s tokens := by
  funext ⟨headers, audiences⟩
  unfold callerAuthenticator
  by_cases carried : ∃ token, Bearer.Carries headers token
  · obtain ⟨token, carries⟩ := carried
    by_cases given : token = ""
    · subst given
      rw [RequestAuthenticator.bearer_of_carries_empty _ _ carries,
        RequestAuthenticator.bearer_of_carries_empty _ _ carries]
    · rw [RequestAuthenticator.bearer_of_carries _ _ given carries,
        RequestAuthenticator.bearer_of_carries _ _ given carries]
      exact TokenAuthenticator.union_static_congr _ _
        (StaticToken.lookup?_filter_isCarriable given carries)
  · rw [RequestAuthenticator.bearer_of_not_carries _ _ (not_exists.1 carried),
      RequestAuthenticator.bearer_of_not_carries _ _ (not_exists.1 carried)]

/-- **Callers are known by configured tokens first and stored ones second.** Let an application be
assembled from any settings and any list of configured tokens, and let a request carry a token. If
the token is configured, then it is accepted as what the last of its entries says, without any
audiences, and without a call: nothing that is stored matters, and nothing is changed. If it is not
configured, then the check of stored tokens is all that is done, call by call and with its verdict.

Entries whose tokens are empty, or begin or end with a blank character, accept nobody: all requests
are authenticated as they are without any of them. -/
theorem callers_resolved {s : Settings} {policy : List PolicyRule}
    {post : Webhook.Transport Task} {configuration : String → ExceptT String Task (Option String)}
    {app : App Task} {w w' : World}
    (assembled : (assemble s tokens policy post configuration).run w = (some (.ok app), w')) :
    (∀ headers audiences bearer, bearer ≠ "" → Bearer.Carries headers bearer →
      ((∃ entry ∈ tokens, entry.token = bearer) →
        ∃ entry, StaticToken.IsLast tokens bearer entry ∧
          app.authenticator { headers, audiences } = .done (.ok (some {
            user := {
              name := entry.user, uid := entry.uid, groups := entry.groups, extra := .empty }
            audiences := [] }))) ∧
      ((∀ entry ∈ tokens, entry.token ≠ bearer) →
        app.authenticator { headers, audiences } =
          TokenAuthenticator.accessTokens s.authentication.inactivityTimeout bearer audiences)) ∧
    app.authenticator = callerAuthenticator s (tokens.filter (·.isCarriable)) := by
  obtain ⟨review, rfl, -⟩ := exists_parts_of_assemble assembled
  have asks : (ofParts s tokens policy review (enabledPlugins s)).authenticator =
      callerAuthenticator s tokens := rfl
  refine ⟨fun headers audiences bearer given carries => ?_,
    (callerAuthenticator_filter_isCarriable s).symm⟩
  · have put : (callerAuthenticator s tokens { headers, audiences } : Task Verdict) =
        TokenAuthenticator.union [.static tokens, storedTokens s] bearer audiences :=
      RequestAuthenticator.bearer_of_carries _ audiences given carries
    rw [asks, put]
    refine ⟨fun listed => ?_, fun unlisted => ?_⟩
    · obtain ⟨entry, isLast⟩ := StaticToken.exists_isLast given listed
      exact ⟨entry, isLast, TokenAuthenticator.union_static_of_isLast _ audiences given isLast⟩
    · exact TokenAuthenticator.union_static tokens _ unlisted audiences

/-- The hypotheses of `callers_resolved` are satisfiable: of two entries of a token the later one
counts, another token is left to the stored ones, and an entry with a blank at an end is for
nobody. -/
theorem callers_resolved_later :
    let earlier : StaticToken := { token := "t", user := "bob" }
    let padded : StaticToken := { token := "t ", user := "eve" }
    let later : StaticToken := { token := "t", user := "alice", groups := ["staff"] }
    let app := selfContained {} [earlier, padded, later] []
    let field (value : String) : Header := ⟨"Authorization", Http.textBytes value⟩
    app.authenticator { headers := [field "Bearer t "] } =
        .done (.ok (some { user := { name := "alice", groups := ["staff"] } })) ∧
      app.authenticator { headers := [field "bearer u"] } =
        TokenAuthenticator.accessTokens none "u" none ∧
      app.authenticator = callerAuthenticator {} [earlier, later] := by
  intro earlier padded later app field
  obtain ⟨w', assembled⟩ := run_assemble_selfContained (s := {}) rfl (by decide +kernel)
    [earlier, padded, later] [] (fun _ _ _ => .done none) (World.ofSettings {} .epoch)
  obtain ⟨known, unusable⟩ := callers_resolved assembled
  have carries (value bearer : String) (read : (Header.first? [field value] Bearer.fieldName).bind
      (Bearer.token? ·.value) = some bearer.toList) : Bearer.Carries [field value] bearer :=
    Bearer.bind_token?_eq_some_iff.1 read
  refine ⟨?_, ?_, ?_⟩
  · obtain ⟨configured, -⟩ := known _ none "t" (by decide)
      (carries "Bearer t " "t" (by decide +kernel))
    obtain ⟨entry, isLast, accepted⟩ := configured ⟨later, by simp, rfl⟩
    have counts := (StaticToken.lookup?_eq_some_iff (by decide)).2 isLast
    obtain rfl : later = entry := Option.some.inj counts
    exact accepted
  · obtain ⟨-, others⟩ := known _ none "u" (by decide)
      (carries "bearer u" "u" (by decide +kernel))
    exact others (by simp [earlier, padded, later])
  · have kept : [earlier, padded, later].filter (·.isCarriable) = [earlier, later] := by
      decide +kernel
    rw [kept] at unusable
    exact unusable

end App

end TokenAuthority
