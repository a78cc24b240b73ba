/-
# Unions of authorizers

A union asks its members in turn until one allows or denies, and a member may be a union again.
Whatever the tree (`Authorizer.union_of_leaves`):

| the leaves say | the tree says |
| --- | --- |
| one decides | the same as the first that decides; those behind it are not asked |
| none decides, and none fails | no opinion, for all their reasons, a line for each that gives one |
| none decides, and some fail | an error with theirs in it, from left to right |

So an error never hides a decision behind it, and neither the grouping nor members without an
opinion and a reason make a difference.
-/

import TokenAuthority.Authorization.Basic
import TokenAuthority.Proofs.InTurn

namespace TokenAuthority

namespace AuthorizationError

mutual

/-- The errors that an error stands for, in order: itself, unless it wraps others. -/
def flatten : AuthorizationError → List AuthorizationError
  | failed text => [failed text]
  | aggregate errors => flattenAll errors

/-- The errors that some errors stand for, in order. -/
def flattenAll : List AuthorizationError → List AuthorizationError
  | [] => []
  | e :: rest => flatten e ++ flattenAll rest

end

/-- Errors of several members are flattened one after the other. -/
theorem flattenAll_eq (errors : List AuthorizationError) :
    flattenAll errors = errors.flatMap flatten := by
  induction errors with
  | nil => rfl
  | cons e rest ih => rw [flattenAll, ih, List.flatMap_cons]

end AuthorizationError

open AuthorizationError (flatten)

/-! ### Reasons -/

/-- A reason to have no opinion. -/
structure Remark where
  text : String

namespace Remark

/-- Two remarks in a line each, if there is something to be said. -/
def join (a b : Remark) : Remark :=
  if a.text = "" then b else if b.text = "" then a else ⟨a.text ++ "\n" ++ b.text⟩

/-- It does not matter how three remarks are joined. -/
theorem join_assoc (a b c : Remark) : join (join a b) c = join a (join b c) := by
  obtain ⟨a⟩ := a
  obtain ⟨b⟩ := b
  obtain ⟨c⟩ := c
  by_cases ha : a = "" <;> by_cases hb : b = "" <;> by_cases hc : c = "" <;>
    simp [join, ha, hb, hc, String.append_assoc]

instance : Monoid Remark where
  mul := join
  one := ⟨""⟩
  mul_assoc := join_assoc
  one_mul a := by
    change join ⟨""⟩ a = a
    exact if_pos rfl
  mul_one a := by
    change join a ⟨""⟩ = a
    unfold join
    split
    · rename_i empty
      exact congrArg mk empty.symm
    · exact if_pos rfl

/-- The product of remarks is their text, line by line. -/
theorem mul_eq (a b : Remark) :
    a * b = if a.text = "" then b else if b.text = "" then a else ⟨a.text ++ "\n" ++ b.text⟩ := rfl

/-- Remarks multiply to the lines of those that say something. -/
theorem prod_map_mk (texts : List String) :
    (texts.map mk).prod = ⟨"\n".intercalate (texts.filter (· ≠ ""))⟩ := by
  induction texts with
  | nil => rfl
  | cons text rest ih =>
    rw [List.map_cons, List.prod_cons, ih, mul_eq]
    by_cases empty : text = ""
    · simp [empty]
    · rw [List.filter_cons_of_pos (by simpa using empty), if_neg empty]
      cases others : rest.filter (· ≠ "") with
      | nil => simp
      | cons first more =>
        have first_ne : first ≠ "" := by
          have mem : first ∈ rest.filter (· ≠ "") := others ▸ List.mem_cons_self
          simpa using (List.mem_filter.1 mem).2
        rw [if_neg, String.intercalate_cons_cons]
        cases more <;> simp [first_ne]

end Remark

namespace Authorizer

/-- What an authorizer answers. -/
abbrev Answer := Except AuthorizationError Authorization

namespace Answer

/-- An answer decides. -/
def Decides (answer : Answer) : Prop :=
  ∃ said, answer = .ok said ∧ said.decision ≠ .noOpinion

/-- The error in which an authorizer ends, if it does. -/
def error? : Answer → Option AuthorizationError
  | .error e => some e
  | .ok _ => none

/-- The reason to have no opinion, if that is the answer. -/
def reason? : Answer → Option String
  | .ok ⟨.noOpinion, reason⟩ => some reason
  | _ => none

/-- What is concluded from the answers of several authorizers that were asked in turn. -/
inductive Concludes (heard : List Answer) : Answer → Prop where
  | decided {earlier : List Answer} {said : Authorization} (last : heard = earlier ++ [.ok said])
      (decides : said.decision ≠ .noOpinion) (before : ∀ answer ∈ earlier, ¬Decides answer) :
      Concludes heard (.ok said)
  | noOpinion (undecided : ∀ answer ∈ heard, ¬Decides answer)
      (errors : heard.filterMap error? = []) :
      Concludes heard
        (.ok ⟨.noOpinion, "\n".intercalate ((heard.filterMap reason?).filter (· ≠ ""))⟩)
  | failed {e : AuthorizationError} (undecided : ∀ answer ∈ heard, ¬Decides answer)
      (errors : heard.filterMap error? ≠ [])
      (collected : e.flatten = (heard.filterMap error?).flatMap flatten) :
      Concludes heard (.error e)

/-- An answer as an outcome. -/
def outcome : Answer → Outcome AuthorizationError Authorization Remark
  | .ok ⟨.noOpinion, reason⟩ => .undecided ⟨reason⟩
  | .ok decided => .decided decided
  | .error e => .failed e.flatten

/-- An answer decides exactly if its outcome is decided. -/
theorem decides_iff (answer : Answer) : answer.Decides ↔ answer.outcome.IsDecided := by
  rcases answer with e | ⟨_ | _ | _, reason⟩ <;> simp [Decides, outcome, Outcome.IsDecided]

/-- An outcome tells the answer, apart from how errors are wrapped. -/
theorem eq_ok_of_outcome {answer : Answer} {said : Authorization}
    (same : answer.outcome = outcome (.ok said)) : answer = .ok said := by
  rcases answer with e | ⟨_ | _ | _, reason⟩ <;> rcases said with ⟨_ | _ | _, other⟩ <;>
    cases same <;> rfl

/-- A failed outcome is that of an error with the same parts. -/
theorem exists_eq_error_of_outcome {answer : Answer} {errors : List AuthorizationError}
    (same : answer.outcome = .failed errors) : ∃ e, answer = .error e ∧ e.flatten = errors := by
  rcases answer with e | ⟨_ | _ | _, reason⟩
  · exact ⟨e, rfl, Outcome.failed.inj same⟩
  all_goals exact nomatch same

/-- An answer whose outcome is the product of what was heard is what is to be concluded from it. -/
theorem concludes_of_inTurn {ι σ : Type} {asks : ι → σ → Answer → σ → Prop} {list : List ι}
    {s s' : σ} {said : List (ι × Answer)} {answer : Answer}
    (turns : InTurn asks Decides list s said s')
    (product : answer.outcome = (said.map fun e => e.2.outcome).prod) :
    Concludes (said.map (·.2)) answer := by
  have errors (heard : List Answer) : heard.filterMap (fun b => b.outcome.errors?) =
      (heard.filterMap error?).map flatten := by
    rw [List.map_filterMap]
    refine List.filterMap_congr fun b _ => ?_
    rcases b with _ | ⟨_ | _ | _, _⟩ <;> rfl
  have remarks (heard : List Answer) : (heard.filterMap fun b => b.outcome.remark?).prod =
      ⟨"\n".intercalate ((heard.filterMap reason?).filter (· ≠ ""))⟩ := by
    rw [← Remark.prod_map_mk, List.map_filterMap]
    refine congrArg List.prod (List.filterMap_congr fun b _ => ?_)
    rcases b with _ | ⟨_ | _ | _, _⟩ <;> rfl
  rcases turns.outcome_cases decides_iff product with
    ⟨earlier, _, last, ⟨decision, rfl, decides⟩, before, decided⟩ | ⟨undecided, silent, failed⟩
  · obtain rfl : answer = .ok decision := eq_ok_of_outcome decided
    exact .decided last decides before
  · rw [errors, List.map_eq_nil_iff, remarks] at silent
    rw [errors, Ne, List.map_eq_nil_iff, ← List.flatMap_def] at failed
    by_cases none : (said.map (·.2)).filterMap error? = []
    · obtain rfl : answer = .ok ⟨.noOpinion, _⟩ := eq_ok_of_outcome (silent none)
      exact .noOpinion undecided none
    · obtain ⟨e, rfl, collected⟩ := exists_eq_error_of_outcome (failed none)
      exact .failed undecided none collected

/-- Two answers are the same, or errors that stand for the same errors. -/
inductive Alike : Answer → Answer → Prop where
  | same (answer : Answer) : Alike answer answer
  | errors {e e' : AuthorizationError} (same : e.flatten = e'.flatten) :
      Alike (.error e) (.error e')

/-- Answers with the same outcome are alike. -/
theorem alike_of_outcome {answer answer' : Answer} (same : answer.outcome = answer'.outcome) :
    Alike answer answer' := by
  rcases answer' with e' | said
  · obtain ⟨e, rfl, collected⟩ := exists_eq_error_of_outcome same
    exact .errors collected
  · obtain rfl := eq_ok_of_outcome same
    exact .same _

end Answer

open Answer (Decides)

variable {κ σ : Type} {attributes : Attributes}

/-- An authorizer that is asked in a state answers, and leaves another state. -/
def Responds (attributes : Attributes) (a : Authorizer (StateM σ)) (s : σ) (answer : Answer)
    (s' : σ) : Prop :=
  (a attributes).run s = (answer, s')

/-- The outcome of members that gave some reasons and ended in some errors, and did not decide. -/
def outcomeOf (reasons : List String) :
    List AuthorizationError → Outcome AuthorizationError Authorization Remark
  | [] => .undecided (reasons.map Remark.mk).prod
  | errors => .failed (errors.flatMap flatten)

/-- One more reason is one more factor, unless it is empty. -/
theorem outcomeOf_mul_undecided (reasons : List String) (errors : List AuthorizationError)
    (reason : String) : outcomeOf reasons errors * .undecided ⟨reason⟩ =
      outcomeOf (if reason = "" then reasons else reasons ++ [reason]) errors := by
  cases errors with
  | cons e rest => rfl
  | nil =>
    split
    · rename_i empty
      subst empty
      exact mul_one _
    · simp [outcomeOf]

/-- One more error is one more factor. -/
theorem outcomeOf_mul_failed (reasons : List String) (errors : List AuthorizationError)
    (e : AuthorizationError) :
    outcomeOf reasons errors * .failed e.flatten = outcomeOf reasons (errors ++ [e]) := by
  cases errors <;> simp [outcomeOf]

/-- A decision makes up for the reasons and errors before it. -/
theorem outcomeOf_mul_decided (reasons : List String) (errors : List AuthorizationError)
    (said : Authorization) : outcomeOf reasons errors * .decided said = .decided said := by
  cases errors <;> rfl

/-- Members are asked in turn up to the first that decides, and the outcome is the product of theirs
and of what was said before. -/
theorem inTurn_firstDecision {members : List (Authorizer (StateM σ))} {reasons : List String}
    {errors : List AuthorizationError} {s s' : σ} {answer : Answer} (given : ∀ r ∈ reasons, r ≠ "")
    (ran : (firstDecision attributes members reasons errors).run s = (answer, s')) : ∃ said,
      InTurn (Responds attributes) Decides members s said s' ∧
        answer.outcome = outcomeOf reasons errors * (said.map fun e => e.2.outcome).prod := by
  induction members generalizing reasons errors s with
  | nil =>
    refine ⟨[], ?_⟩
    unfold firstDecision at ran
    match errors with
    | [] =>
      cases ran
      have all : reasons.filter (· ≠ "") = reasons :=
        List.filter_eq_self.2 fun r mem => decide_eq_true (given r mem)
      refine ⟨.nobody _, ?_⟩
      rw [outcomeOf, Remark.prod_map_mk, all]
      exact (mul_one _).symm
    | [e] =>
      cases ran
      exact ⟨.nobody _, by simp [Answer.outcome, outcomeOf]⟩
    | first :: second :: rest =>
      cases ran
      refine ⟨.nobody _, ?_⟩
      simp [Answer.outcome, outcomeOf, AuthorizationError.flatten,
        AuthorizationError.flattenAll_eq]
  | cons member rest ih =>
    unfold firstDecision at ran
    rw [StateT.run_bind] at ran
    rcases asked : (member attributes).run s with ⟨heard, s₁⟩
    rw [asked] at ran
    -- What was said so far is a factor before those of the members, and takes up what this says.
    rcases heard with e | ⟨_ | _ | _, reason⟩
    · obtain ⟨said, turns, product⟩ := ih given ran
      refine ⟨_, turns.passed asked (by rintro ⟨_, ⟨⟩, _⟩), ?_⟩
      rw [product, ← outcomeOf_mul_failed, mul_assoc]
      rfl
    · cases ran
      refine ⟨_, .ended rest asked ⟨_, rfl, nofun⟩, ?_⟩
      rw [List.map_singleton, List.prod_singleton]
      exact (outcomeOf_mul_decided reasons errors _).symm
    · cases ran
      refine ⟨_, .ended rest asked ⟨_, rfl, nofun⟩, ?_⟩
      rw [List.map_singleton, List.prod_singleton]
      exact (outcomeOf_mul_decided reasons errors _).symm
    · have stillGiven : ∀ r ∈ if reason = "" then reasons else reasons ++ [reason], r ≠ "" := by
        split
        · exact given
        · simpa [or_imp, forall_and] using And.intro given ‹_›
      obtain ⟨said, turns, product⟩ := ih stillGiven ran
      refine ⟨_, turns.passed asked (by rintro ⟨_, ⟨⟩, other⟩; exact other rfl), ?_⟩
      rw [product, ← outcomeOf_mul_undecided, mul_assoc]
      rfl

/-- A union asks its members in turn, and its outcome is the product of theirs. -/
theorem inTurn_union (members : List (Authorizer (StateM σ))) (s : σ) (answer : Answer) (s' : σ)
    (ran : Responds attributes (union members) s answer s') : ∃ said,
      InTurn (Responds attributes) Decides members s said s' ∧
        answer.outcome = (said.map fun e => e.2.outcome).prod := by
  obtain ⟨said, turns, product⟩ := inTurn_firstDecision (List.forall_mem_nil _) ran
  exact ⟨said, turns, product.trans (one_mul _)⟩

/-- An authorizer does what another one does, and keeps a list of calls besides. -/
def LogsCalls (a' : Authorizer (StateM (List κ × σ))) (a : Authorizer (StateM σ)) : Prop :=
  ∀ attributes, Logs (a' attributes) (a attributes)

/-- Members that keep a list of calls decide together what they decide without it. -/
theorem logs_firstDecision {members' : List (Authorizer (StateM (List κ × σ)))}
    {members : List (Authorizer (StateM σ))} (h : List.Forall₂ LogsCalls members' members)
    (reasons : List String) (errors : List AuthorizationError) :
    Logs (firstDecision attributes members' reasons errors)
      (firstDecision attributes members reasons errors) := by
  induction h generalizing reasons errors with
  | nil =>
    unfold firstDecision
    split
    · exact .pure _
    · exact .pure _
  | cons first others ih =>
    refine (first attributes).bind fun answer => ?_
    rcases answer with e | ⟨_ | _ | _, reason⟩
    · exact ih _ _
    · exact .pure _
    · exact .pure _
    · exact ih _ _

/-- A union of members that keep a list of calls does what it does without it. -/
theorem logsCalls_union {members' : List (Authorizer (StateM (List κ × σ)))}
    {members : List (Authorizer (StateM σ))} (h : List.Forall₂ LogsCalls members' members) :
    LogsCalls (union members') (union members) :=
  fun _ => logs_firstDecision h [] []

/-- A leaf that keeps a list of what it is asked. -/
def listing {ι : Type} (leafOf : ι → Authorizer (StateM σ)) (i : ι) :
    Authorizer (StateM (List (ι × Attributes) × σ)) :=
  fun attributes => logging (i, attributes) (leafOf i attributes)

/-- An authorizer has no opinion, no reason and no effect. -/
def IsSilent (attributes : Attributes) (a : Authorizer (StateM σ)) : Prop :=
  ∀ s, Responds attributes a s (.ok ⟨.noOpinion, ""⟩) s

section Trees

variable {ι : Type} {leafOf : ι → Authorizer (StateM σ)}

/-- What a tree answers comes from its leaves, and not from silent ones. -/
theorem inTurn_of_kept (tree : UnionTree ι) {kept : ι → Bool} {s s' : σ} {answer : Answer}
    (silent : ∀ i, kept i = false → IsSilent attributes (leafOf i))
    (ran : Responds attributes (tree.assemble leafOf union) s answer s') : ∃ said,
      InTurn (fun i => Responds attributes (leafOf i)) Decides (tree.leaves.filter kept) s said s' ∧
        answer.outcome = (said.map fun e => e.2.outcome).prod := by
  obtain ⟨said, turns, product⟩ := tree.inTurn Answer.decides_iff inTurn_union ran
  have idle (i : ι) (dropped : kept i = false) (s : σ) (b : Answer) (s' : σ)
      (asked : Responds attributes (leafOf i) s b s') :
      s' = s ∧ ¬b.Decides ∧ b.outcome = 1 := by
    obtain ⟨rfl, rfl⟩ := Prod.mk.inj (asked.symm.trans (silent i dropped s))
    exact ⟨rfl, by rintro ⟨_, ⟨⟩, other⟩; exact other rfl, rfl⟩
  obtain ⟨less, lessTurns, same⟩ := turns.filter idle
  exact ⟨less, lessTurns, product.trans same.symm⟩

/-- **A tree of unions is like one union of its leaves.** They are asked from left to right, each
once and in the state that the one before leaves, up to and including the first that decides, and
what is concluded from their answers does not depend on how they are grouped. Another tree has the
same effect and answers alike, if it has the same leaves in the same order but for silent ones. -/
theorem union_of_leaves (tree : UnionTree ι) (leafOf : ι → Authorizer (StateM σ))
    (attributes : Attributes) (s : σ) :
    ∃ said answer s',
      InTurn (fun i => Responds attributes (leafOf i)) Decides tree.leaves s said s' ∧
      Responds attributes (tree.assemble leafOf union) s answer s' ∧
      Responds attributes (tree.assemble (listing leafOf) union) ([], s) answer
        (said.map fun e => (e.1, attributes), s') ∧
      Answer.Concludes (said.map (·.2)) answer ∧
      ∀ (kept : ι → Bool) (tree' : UnionTree ι),
        (∀ i, kept i = false → IsSilent attributes (leafOf i)) →
        tree'.leaves.filter kept = tree.leaves.filter kept →
        ∃ answer', Responds attributes (tree'.assemble leafOf union) s answer' s' ∧
          Answer.Alike answer' answer := by
  have logs : LogsCalls (tree.assemble (listing leafOf) union) (tree.assemble leafOf union) :=
    tree.assemble_related (fun i attributes => .logging _ (leafOf i attributes))
      fun _ _ => logsCalls_union
  obtain ⟨calls, ran⟩ := logs attributes [] s
  obtain ⟨said, listed, product⟩ := tree.inTurn Answer.decides_iff inTurn_union ran
  obtain ⟨turns, rfl⟩ := InTurn.of_logging listed
  refine ⟨said, _, _, turns, rfl, ran, Answer.concludes_of_inTurn turns product, ?_⟩
  intro kept tree' silent sameLeaves
  obtain ⟨less, lessTurns, product⟩ := inTurn_of_kept (s := s) tree silent rfl
  obtain ⟨less', lessTurns', product'⟩ := inTurn_of_kept (s := s) tree' silent rfl
  rw [sameLeaves] at lessTurns'
  obtain ⟨rfl, same⟩ := lessTurns'.unique (fun i s b₁ s₁ b₂ s₂ first second =>
    Prod.mk.inj (first.symm.trans second)) lessTurns
  exact ⟨_, Prod.ext rfl same, Answer.alike_of_outcome (product'.trans product.symm)⟩

/-- One leaf without an opinion, one that fails, and one that allows. -/
def threeLeaves : Fin 3 → Authorizer (StateM Unit)
  | 0 => fun _ => return .ok ⟨.noOpinion, ""⟩
  | 1 => fun _ => return .error (.failed "down")
  | 2 => fun _ => return .ok ⟨.allow, "known"⟩

/-- Grouping the leaves, and asking one that is silent besides, changes nothing. -/
theorem union_of_threeLeaves :
    let flat : UnionTree (Fin 3) := .union [.leaf 1, .leaf 2]
    let grouped : UnionTree (Fin 3) := .union [.leaf 0, .union [.leaf 1], .leaf 2]
    (∀ i, decide (i ≠ 0) = false → IsSilent {} (threeLeaves i)) ∧
    grouped.leaves.filter (fun i => decide (i ≠ 0)) =
      flat.leaves.filter (fun i => decide (i ≠ 0)) ∧
    ∃ answer, Responds {} (grouped.assemble threeLeaves union) () answer () ∧
      Answer.Alike answer (.ok ⟨.allow, "known"⟩) := by
  intro flat grouped
  have silent (i : Fin 3) (isFirst : decide (i ≠ 0) = false) : IsSilent {} (threeLeaves i) := by
    obtain rfl : i = 0 := by simpa using isFirst
    exact fun _ => rfl
  obtain ⟨-, answer, s', -, ran, -, -, others⟩ :=
    union_of_leaves flat threeLeaves {} ()
  obtain rfl : .ok ⟨.allow, "known"⟩ = answer := congrArg Prod.fst ran
  exact ⟨silent, rfl, others _ grouped silent rfl⟩

end Trees

end Authorizer

end TokenAuthority
