/-
# Unions of authenticators

A union asks its members in turn until one accepts, and a member may be a union again. Whatever the
tree (`TokenAuthenticator.unions_flat`):

| the leaves say | the tree says |
| --- | --- |
| one accepts | the same as the first that accepts; those behind it are not asked |
| none accepts, and none ends in an error | nothing |
| none accepts, and some end in errors | an error with theirs in it, from left to right |

A single error of a member is passed on as it is and several are wrapped, so the shape of an error
depends on the tree. What does not depend on it are the errors that the wrappings hold
(`AuthenticationError.flatten`).
-/

import Mathlib.Algebra.Ring.PUnit
import TokenAuthority.Proofs.Alone
import TokenAuthority.Proofs.InTurn

namespace TokenAuthority

namespace AuthenticationError

mutual

/-- The errors that an error stands for, in order: itself, unless it wraps others. -/
def flatten : AuthenticationError → List AuthenticationError
  | aggregate errors => flattenAll errors
  | e => [e]

/-- The errors that some errors stand for, in order. -/
def flattenAll : List AuthenticationError → List AuthenticationError
  | [] => []
  | e :: rest => flatten e ++ flattenAll rest

end

/-- Errors of several members are flattened one after the other. -/
theorem flattenAll_eq (errors : List AuthenticationError) :
    flattenAll errors = errors.flatMap flatten := by
  induction errors with
  | nil => rfl
  | cons e rest ih => rw [flattenAll, ih, List.flatMap_cons]

end AuthenticationError

open AuthenticationError (flatten)

namespace Verdict

/-- The error in which an authenticator ends, if it does. -/
def error? : Verdict → Option AuthenticationError
  | .error e => some e
  | .ok _ => none

/-- What is concluded from the verdicts of several authenticators that were asked in turn. -/
inductive Concludes (heard : List Verdict) : Verdict → Prop where
  | accepted {earlier : List Verdict} {accepted : Accepted}
      (last : heard = earlier ++ [.ok (some accepted)]) (before : ∀ v ∈ earlier, ¬Accepts v) :
      Concludes heard (.ok (some accepted))
  | silent (refused : ∀ v ∈ heard, ¬Accepts v) (errors : heard.filterMap error? = []) :
      Concludes heard (.ok none)
  | failed {e : AuthenticationError} (refused : ∀ v ∈ heard, ¬Accepts v)
      (errors : heard.filterMap error? ≠ [])
      (collected : e.flatten = (heard.filterMap error?).flatMap flatten) :
      Concludes heard (.error e)

/-- A verdict as an outcome. -/
def outcome : Verdict → Outcome AuthenticationError Accepted Unit
  | .ok (some accepted) => .decided accepted
  | .ok none => .undecided ()
  | .error e => .failed e.flatten

/-- A verdict accepts exactly if its outcome is decided. -/
theorem accepts_iff (v : Verdict) : v.Accepts ↔ v.outcome.IsDecided := by
  rcases v with e | _ | accepted <;> simp [Accepts, outcome, Outcome.IsDecided]

/-- A verdict whose outcome is the product of what was heard is what is to be concluded from it. -/
theorem concludes_of_inTurn {ι σ : Type} {asks : ι → σ → Verdict → σ → Prop} {list : List ι}
    {s s' : σ} {said : List (ι × Verdict)} {v : Verdict}
    (turns : InTurn asks Accepts list s said s')
    (product : v.outcome = (said.map fun e => e.2.outcome).prod) :
    Concludes (said.map (·.2)) v := by
  have errors (heard : List Verdict) : heard.filterMap (fun v => v.outcome.errors?) =
      (heard.filterMap error?).map flatten := by
    rw [List.map_filterMap]
    refine List.filterMap_congr fun v _ => ?_
    rcases v with _ | _ | _ <;> rfl
  rcases turns.outcome_cases accepts_iff product with
    ⟨earlier, _, last, ⟨accepted, rfl⟩, before, decided⟩ | ⟨refused, silent, failed⟩
  · obtain rfl : v = .ok (some accepted) := by
      rcases v with e | _ | other <;> cases decided
      rfl
    exact .accepted last before
  · rw [errors, List.map_eq_nil_iff] at silent
    rw [errors, Ne, List.map_eq_nil_iff, ← List.flatMap_def] at failed
    by_cases none : (said.map (·.2)).filterMap error? = []
    · obtain rfl : v = .ok .none := by
        rcases v with e | _ | other <;> cases silent none
        rfl
      exact .silent refused none
    · obtain ⟨e, rfl⟩ : ∃ e, v = .error e := by
        rcases v with e | _ | other
        · exact ⟨e, rfl⟩
        · exact nomatch failed none
        · exact nomatch failed none
      exact .failed refused none (Outcome.failed.inj (failed none))

end Verdict

namespace TokenAuthenticator

variable {κ σ : Type} {token : String} {audiences : Option Audiences}

/-- An authenticator that is asked in a state has a verdict, and leaves another state. -/
def Answers (token : String) (audiences : Option Audiences) (a : TokenAuthenticator (StateM σ))
    (s : σ) (v : Verdict) (s' : σ) : Prop :=
  (a token audiences).run s = (v, s')

/-- The outcome of members that ended in some errors, and did not accept otherwise. -/
def outcomeOf : List AuthenticationError → Outcome AuthenticationError Accepted Unit
  | [] => 1
  | errors => .failed (errors.flatMap flatten)

/-- One more error is one more factor. -/
theorem outcomeOf_append (errors : List AuthenticationError) (e : AuthenticationError) :
    outcomeOf (errors ++ [e]) = outcomeOf errors * .failed e.flatten := by
  cases errors with
  | nil => simp [outcomeOf]
  | cons first rest => simp [outcomeOf]

/-- An acceptance makes up for the errors before it. -/
theorem outcomeOf_mul_decided (errors : List AuthenticationError) (accepted : Accepted) :
    outcomeOf errors * .decided accepted = .decided accepted := by
  cases errors <;> rfl

/-- Members are asked in turn up to the first that accepts, and the outcome is the product of theirs
and of the errors before. -/
theorem inTurn_firstAccepted {members : List (TokenAuthenticator (StateM σ))}
    {errors : List AuthenticationError} {s s' : σ} {v : Verdict}
    (answer : (firstAccepted token audiences members errors).run s = (v, s')) : ∃ said,
      InTurn (Answers token audiences) Verdict.Accepts members s said s' ∧
        v.outcome = outcomeOf errors * (said.map fun e => e.2.outcome).prod := by
  induction members generalizing errors s with
  | nil =>
    unfold firstAccepted at answer
    rcases errors with _ | ⟨first, _ | ⟨second, rest⟩⟩
    · cases answer
      exact ⟨[], .nobody _, rfl⟩
    · cases answer
      exact ⟨[], .nobody _, by simp [Verdict.outcome, outcomeOf]⟩
    · cases answer
      refine ⟨[], .nobody _, ?_⟩
      simp [Verdict.outcome, outcomeOf, AuthenticationError.flatten,
        AuthenticationError.flattenAll_eq]
  | cons member rest ih =>
    unfold firstAccepted at answer
    rw [StateT.run_bind] at answer
    rcases asked : (member token audiences).run s with ⟨said, s₁⟩
    rw [asked] at answer
    -- The errors so far are a factor before those of the members, and take up what this one says.
    rcases said with e | _ | accepted
    · obtain ⟨said, turns, product⟩ := ih answer
      refine ⟨_, turns.passed asked (by rintro ⟨_, ⟨⟩⟩), ?_⟩
      rw [product, outcomeOf_append, mul_assoc]
      rfl
    · obtain ⟨said, turns, product⟩ := ih answer
      refine ⟨_, turns.passed asked (by rintro ⟨_, ⟨⟩⟩), ?_⟩
      rw [product, List.map_cons, List.prod_cons]
      exact congrArg _ (one_mul _).symm
    · cases answer
      refine ⟨_, .ended rest asked ⟨accepted, rfl⟩, ?_⟩
      rw [List.map_singleton, List.prod_singleton]
      exact (outcomeOf_mul_decided errors accepted).symm

/-- A union asks its members in turn, and its outcome is the product of theirs. -/
theorem inTurn_union (members : List (TokenAuthenticator (StateM σ))) (s : σ) (v : Verdict) (s' : σ)
    (answer : Answers token audiences (union members) s v s') : ∃ said,
      InTurn (Answers token audiences) Verdict.Accepts members s said s' ∧
        v.outcome = (said.map fun e => e.2.outcome).prod := by
  obtain ⟨said, turns, product⟩ := inTurn_firstAccepted answer
  exact ⟨said, turns, product.trans (one_mul _)⟩

/-- An authenticator does what another one does, and keeps a list of calls besides. -/
def LogsCalls (a' : TokenAuthenticator (StateM (List κ × σ))) (a : TokenAuthenticator (StateM σ)) :
    Prop :=
  ∀ token audiences, Logs (a' token audiences) (a token audiences)

/-- Members that keep a list of calls decide together what they decide without it. -/
theorem logs_firstAccepted {members' : List (TokenAuthenticator (StateM (List κ × σ)))}
    {members : List (TokenAuthenticator (StateM σ))} (h : List.Forall₂ LogsCalls members' members)
    (errors : List AuthenticationError) : Logs (firstAccepted token audiences members' errors)
      (firstAccepted token audiences members errors) := by
  induction h generalizing errors with
  | nil =>
    unfold firstAccepted
    split
    · exact .pure _
    · exact .pure _
  | cons first others ih =>
    refine (first token audiences).bind fun v => ?_
    rcases v with e | _ | accepted
    · exact ih _
    · exact ih _
    · exact .pure _

/-- A union of members that keep a list of calls does what it does without it. -/
theorem logsCalls_union {members' : List (TokenAuthenticator (StateM (List κ × σ)))}
    {members : List (TokenAuthenticator (StateM σ))}
    (h : List.Forall₂ LogsCalls members' members) : LogsCalls (union members') (union members) :=
  fun _ _ => logs_firstAccepted h []

/-- A leaf that keeps a list of what it is asked. -/
def listing {ι : Type} (leafOf : ι → TokenAuthenticator (StateM σ)) (i : ι) :
    TokenAuthenticator (StateM (List (ι × String × Option Audiences) × σ)) :=
  fun token audiences => logging (i, token, audiences) (leafOf i token audiences)

/-- **A tree of unions is like one union of its leaves.** They are asked from left to right, each
once, about the same token and in the state that the one before leaves, up to and including the
first that accepts. What is concluded from their verdicts does not depend on how they are
grouped. -/
theorem unions_flat {ι : Type} (tree : UnionTree ι) (leafOf : ι → TokenAuthenticator (StateM σ))
    (token : String) (audiences : Option Audiences) (s : σ) : ∃ said v s',
      InTurn (fun i => Answers token audiences (leafOf i)) Verdict.Accepts tree.leaves s said s' ∧
      Answers token audiences (tree.assemble leafOf union) s v s' ∧
      Answers token audiences (tree.assemble (listing leafOf) union) ([], s) v
        (said.map fun e => (e.1, token, audiences), s') ∧
      Verdict.Concludes (said.map (·.2)) v := by
  have logs : LogsCalls (tree.assemble (listing leafOf) union) (tree.assemble leafOf union) :=
    tree.assemble_related (fun i token audiences => .logging _ (leafOf i token audiences))
      fun _ _ => logsCalls_union
  obtain ⟨calls, ran⟩ := logs token audiences [] s
  obtain ⟨said, listed, product⟩ := tree.inTurn Verdict.accepts_iff inTurn_union ran
  obtain ⟨turns, rfl⟩ := InTurn.of_logging listed
  exact ⟨said, _, _, turns, rfl, ran, Verdict.concludes_of_inTurn turns product⟩

end TokenAuthenticator

end TokenAuthority
