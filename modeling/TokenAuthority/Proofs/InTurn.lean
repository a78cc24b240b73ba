/-
# Asking in turn

Unions of authorizers and of authenticators, chains of plugins and the builders of such chains all
ask members in turn, each in the state that the one before leaves, up to and including the first
whose answer ends it (`InTurn`):

| members | what ends it |
| --- | --- |
| the authorizers of a union | a decision |
| the authenticators of a union | an acceptance |
| the plugins of a chain | an objection |
| the factories of plugins | an error |

A union can be a member of another one. What the members of a union come to is a product
(`Outcome`): the first decision, or else all errors, or else all remarks. A decision absorbs what
follows it, so the product over the members of a member can be taken where it stands, and a tree of
unions comes to what its leaves come to if they are asked in turn (`UnionTree.inTurn`).

To tell who is called with what, and not only what comes of it, the same union is made of members
that keep a list of their calls (`logging`); but for the list it is the union as it was
(`UnionTree.assemble_related` with `Logs`).
-/

import Mathlib.Algebra.BigOperators.Group.List.Basic

namespace TokenAuthority

/-- Members are asked in turn, each in the state that the one before leaves, up to and including the
first whose answer ends it. `said` tells who was asked, and what was answered. -/
inductive InTurn {ι σ β : Type} (asks : ι → σ → β → σ → Prop) (ends : β → Prop) :
    List ι → σ → List (ι × β) → σ → Prop where
  | nobody (s : σ) : InTurn asks ends [] s [] s
  | ended {i : ι} {s s' : σ} {b : β} (rest : List ι) (answer : asks i s b s') (last : ends b) :
      InTurn asks ends (i :: rest) s [(i, b)] s'
  | passed {i : ι} {s s₁ s' : σ} {b : β} {rest : List ι} {said : List (ι × β)}
      (answer : asks i s b s₁) (goesOn : ¬ends b) (others : InTurn asks ends rest s₁ said s') :
      InTurn asks ends (i :: rest) s ((i, b) :: said) s'

namespace InTurn

variable {ι σ β : Type} {asks : ι → σ → β → σ → Prop} {ends : β → Prop} {list more : List ι}
  {s s₁ s' : σ} {said later : List (ι × β)}

/-- Where an answer has ended it, members that come later are not asked. -/
theorem append_of_ended (h : InTurn asks ends list s said s') (more : List ι)
    (last : ∃ e ∈ said, ends e.2) : InTurn asks ends (list ++ more) s said s' := by
  induction h with
  | nobody s =>
    obtain ⟨e, mem, -⟩ := last
    cases mem
  | ended rest answer ended => exact .ended (rest ++ more) answer ended
  | passed answer goesOn others ih =>
    refine .passed answer goesOn (ih ?_)
    obtain ⟨e, mem, last⟩ := last
    rcases List.mem_cons.1 mem with rfl | mem
    · exact absurd last goesOn
    · exact ⟨e, mem, last⟩

/-- Where no answer has ended it, members that come later are asked next. -/
theorem append_of_passed (h : InTurn asks ends list s said s₁) (goesOn : ∀ e ∈ said, ¬ends e.2)
    (others : InTurn asks ends more s₁ later s') :
    InTurn asks ends (list ++ more) s (said ++ later) s' := by
  induction h with
  | nobody s => exact others
  | ended rest answer last => exact absurd last (goesOn _ List.mem_cons_self)
  | passed answer goes _ ih =>
    exact .passed answer goes (ih (fun e mem => goesOn e (List.mem_cons_of_mem _ mem)) others)

/-- What every answer keeps stays, and whoever was asked is in the list, and was asked where it was
kept. -/
theorem keeps {kept : σ → Prop} (step : ∀ i s b s', asks i s b s' → kept s → kept s')
    (h : InTurn asks ends list s said s') (start : kept s) :
    kept s' ∧ ∀ e ∈ said, e.1 ∈ list ∧ ∃ s₁ s₂, kept s₁ ∧ asks e.1 s₁ e.2 s₂ := by
  induction h with
  | nobody s => exact ⟨start, by simp⟩
  | ended rest answer last =>
    refine ⟨step _ _ _ _ answer start, ?_⟩
    simpa using ⟨_, start, _, answer⟩
  | passed answer goesOn others ih =>
    obtain ⟨final, inList⟩ := ih (step _ _ _ _ answer start)
    refine ⟨final, List.forall_mem_cons.2 ⟨⟨List.mem_cons_self, _, _, start, answer⟩, ?_⟩⟩
    exact fun e mem => (inList e mem).imp_left (List.mem_cons_of_mem _)

/-- Either the last of those that were asked has ended it, or all were asked. -/
theorem ended_or_passed (h : InTurn asks ends list s said s') :
    (∃ earlier i b, said = earlier ++ [(i, b)] ∧ ends b ∧ ∀ e ∈ earlier, ¬ends e.2) ∨
      said.map (·.1) = list ∧ ∀ e ∈ said, ¬ends e.2 := by
  induction h with
  | nobody s => exact .inr ⟨rfl, by simp⟩
  | @ended i s s' b rest answer last => exact .inl ⟨[], i, b, rfl, last, by simp⟩
  | @passed i s s₁ s' b rest said answer goesOn others ih =>
    rcases ih with ⟨earlier, j, c, rfl, last, goes⟩ | ⟨all, goes⟩
    · exact .inl ⟨(i, b) :: earlier, j, c, rfl, last, List.forall_mem_cons.2 ⟨goesOn, goes⟩⟩
    · exact .inr ⟨by rw [List.map_cons, all], List.forall_mem_cons.2 ⟨goesOn, goes⟩⟩

/-- If all answer in one way, there is one way to ask them in turn. -/
theorem unique (answers : ∀ i s b₁ s₁ b₂ s₂, asks i s b₁ s₁ → asks i s b₂ s₂ → b₁ = b₂ ∧ s₁ = s₂)
    {said₂ : List (ι × β)} {s₂ : σ} (h : InTurn asks ends list s said s')
    (h₂ : InTurn asks ends list s said₂ s₂) : said = said₂ ∧ s' = s₂ := by
  induction h generalizing said₂ with
  | nobody s =>
    cases h₂
    exact ⟨rfl, rfl⟩
  | ended rest answer last =>
    cases h₂ with
    | ended _ answer₂ last₂ =>
      obtain ⟨rfl, rfl⟩ := answers _ _ _ _ _ _ answer answer₂
      exact ⟨rfl, rfl⟩
    | passed answer₂ goesOn₂ others₂ =>
      obtain ⟨rfl, rfl⟩ := answers _ _ _ _ _ _ answer answer₂
      exact absurd last goesOn₂
  | passed answer goesOn others ih =>
    cases h₂ with
    | ended _ answer₂ last₂ =>
      obtain ⟨rfl, rfl⟩ := answers _ _ _ _ _ _ answer answer₂
      exact absurd last₂ goesOn
    | passed answer₂ goesOn₂ others₂ =>
      obtain ⟨rfl, rfl⟩ := answers _ _ _ _ _ _ answer answer₂
      obtain ⟨rfl, rfl⟩ := ih others₂
      exact ⟨rfl, rfl⟩

/-- Who changes nothing, never ends it and adds nothing to what the members come to need not be
asked. -/
theorem filter {μ : Type} [Monoid μ] {worth : β → μ} {kept : ι → Bool}
    (idle : ∀ i, kept i = false → ∀ s b s', asks i s b s' → s' = s ∧ ¬ends b ∧ worth b = 1)
    (h : InTurn asks ends list s said s') : ∃ less, InTurn asks ends (list.filter kept) s less s' ∧
      (less.map fun e => worth e.2).prod = (said.map fun e => worth e.2).prod := by
  induction h with
  | nobody s => exact ⟨[], .nobody s, rfl⟩
  | @ended i s s' b rest answer last =>
    have isKept : kept i = true := by
      by_contra dropped
      exact (idle i (Bool.eq_false_iff.2 dropped) s b s' answer).2.1 last
    rw [List.filter_cons_of_pos isKept]
    exact ⟨_, .ended (rest.filter kept) answer last, rfl⟩
  | @passed i s s₁ s' b rest said answer goesOn others ih =>
    obtain ⟨less, turns, same⟩ := ih
    rw [List.map_cons, List.prod_cons, ← same]
    cases isKept : kept i with
    | true =>
      rw [List.filter_cons_of_pos isKept]
      exact ⟨_, turns.passed answer goesOn, List.prod_cons⟩
    | false =>
      obtain ⟨rfl, -, one⟩ := idle i isKept s b s₁ answer
      rw [List.filter_cons_of_neg (Bool.eq_false_iff.1 isKept), one, one_mul]
      exact ⟨less, turns, rfl⟩

end InTurn

/-! ### Outcomes -/

/-- What members that are asked in turn come to: the first decision; without one, the errors in
which they end; and without these too, what they remark. -/
inductive Outcome (ε δ ρ : Type) where
  | decided (decision : δ)
  | undecided (remark : ρ)
  | failed (errors : List ε)

namespace Outcome

variable {ε δ ρ : Type}

/-- What an outcome comes to with a later one. -/
def followedBy [Mul ρ] : Outcome ε δ ρ → Outcome ε δ ρ → Outcome ε δ ρ
  | decided d, _ => decided d
  | undecided r, undecided r' => undecided (r * r')
  | undecided _, later => later
  | failed errors, failed errors' => failed (errors ++ errors')
  | failed errors, undecided _ => failed errors
  | failed _, decided d => decided d

instance [Monoid ρ] : Monoid (Outcome ε δ ρ) where
  mul := followedBy
  one := undecided 1
  mul_assoc x y z := by
    change followedBy (followedBy x y) z = followedBy x (followedBy y z)
    cases x <;> cases y <;> cases z <;> simp [followedBy, mul_assoc]
  one_mul x := by
    change followedBy (undecided 1) x = x
    cases x <;> simp [followedBy]
  mul_one x := by
    change followedBy x (undecided 1) = x
    cases x <;> simp [followedBy]

/-- There is a decision. -/
def IsDecided (x : Outcome ε δ ρ) : Prop :=
  ∃ d, x = decided d

/-- The errors, if it came to errors. -/
def errors? : Outcome ε δ ρ → Option (List ε)
  | failed errors => some errors
  | _ => none

/-- The remark, if it came to one. -/
def remark? : Outcome ε δ ρ → Option ρ
  | undecided r => some r
  | _ => none

variable [Monoid ρ] {x y : Outcome ε δ ρ} {l : List (Outcome ε δ ρ)}

/-- Nothing is added to a decision. -/
@[simp] theorem decided_mul (d : δ) (y : Outcome ε δ ρ) : decided d * y = decided d := rfl

/-- Without a decision the remarks add up. -/
@[simp] theorem undecided_mul_undecided (r r' : ρ) :
    (undecided r * undecided r' : Outcome ε δ ρ) = undecided (r * r') := rfl

/-- An error makes up for the remarks before it. -/
@[simp] theorem undecided_mul_failed (r : ρ) (errors : List ε) :
    (undecided r * failed errors : Outcome ε δ ρ) = failed errors := rfl

/-- An error makes up for the remarks behind it. -/
@[simp] theorem failed_mul_undecided (errors : List ε) (r : ρ) :
    (failed errors * undecided r : Outcome ε δ ρ) = failed errors := rfl

/-- Errors add up. -/
@[simp] theorem failed_mul_failed (errors errors' : List ε) :
    (failed errors * failed errors' : Outcome ε δ ρ) = failed (errors ++ errors') := rfl

/-- A decision makes up for all before it that is not one. -/
theorem mul_decided (undecided : ¬x.IsDecided) (d : δ) : x * decided d = decided d := by
  cases x with
  | decided d' => exact absurd ⟨d', rfl⟩ undecided
  | undecided r => rfl
  | failed errors => rfl

/-- A product is decided if one of its factors is. -/
theorem isDecided_mul_iff : (x * y).IsDecided ↔ x.IsDecided ∨ y.IsDecided := by
  cases x <;> cases y <;> simp [IsDecided, mul_decided]

/-- Where nobody is asked, nothing is decided. -/
theorem not_isDecided_one : ¬(1 : Outcome ε δ ρ).IsDecided := by
  rintro ⟨d, h⟩
  cases h

/-- A product of several outcomes is decided if one of them is. -/
theorem isDecided_prod_iff : l.prod.IsDecided ↔ ∃ x ∈ l, x.IsDecided := by
  induction l with
  | nil => simpa using not_isDecided_one
  | cons x rest ih => rw [List.prod_cons, isDecided_mul_iff, ih, List.exists_mem_cons_iff]

/-- Outcomes with a decision at their end come to it. -/
theorem prod_append_decided (undecided : ∀ x ∈ l, ¬x.IsDecided) (d : δ) :
    (l ++ [decided d]).prod = decided d := by
  rw [List.prod_append, List.prod_singleton]
  refine mul_decided (fun isDecided => ?_) d
  obtain ⟨x, mem, isDecided⟩ := isDecided_prod_iff.1 isDecided
  exact undecided x mem isDecided

/-- Outcomes without a decision come to all errors, or else to all remarks. -/
theorem prod_of_undecided (undecided : ∀ x ∈ l, ¬x.IsDecided) :
    (l.filterMap errors? = [] → l.prod = .undecided (l.filterMap remark?).prod) ∧
    (l.filterMap errors? ≠ [] → l.prod = failed (l.filterMap errors?).flatten) := by
  induction l with
  | nil => exact ⟨fun _ => rfl, fun ne => absurd rfl ne⟩
  | cons x rest ih =>
    obtain ⟨first, others⟩ := List.forall_mem_cons.1 undecided
    obtain ⟨remarks, errors⟩ := ih others
    rw [List.prod_cons]
    cases x with
    | decided d => exact absurd ⟨d, rfl⟩ first
    | undecided r =>
      refine ⟨fun none => ?_, fun some => ?_⟩
      · rw [remarks none]
        rfl
      · rw [errors some]
        rfl
    | failed found =>
      refine ⟨nofun, fun _ => ?_⟩
      by_cases none : rest.filterMap errors? = []
      · rw [remarks none, failed_mul_undecided]
        simp [errors?, none]
      · rw [errors none]
        rfl

end Outcome

/-- What members come to that are asked in turn: the decision of the last, or else all their errors,
or else all their remarks. -/
theorem InTurn.outcome_cases {ι σ β ε δ ρ : Type} [Monoid ρ] {asks : ι → σ → β → σ → Prop}
    {ends : β → Prop} {outcome : β → Outcome ε δ ρ} {list : List ι} {s s' : σ}
    {said : List (ι × β)} {x : Outcome ε δ ρ} (h : InTurn asks ends list s said s')
    (decides : ∀ b, ends b ↔ (outcome b).IsDecided)
    (product : x = (said.map fun e => outcome e.2).prod) :
    (∃ earlier b, said.map (·.2) = earlier ++ [b] ∧ ends b ∧ (∀ b ∈ earlier, ¬ends b) ∧
      x = outcome b) ∨
    (∀ b ∈ said.map (·.2), ¬ends b) ∧
      ((said.map (·.2)).filterMap (fun b => (outcome b).errors?) = [] →
        x = .undecided ((said.map (·.2)).filterMap fun b => (outcome b).remark?).prod) ∧
      ((said.map (·.2)).filterMap (fun b => (outcome b).errors?) ≠ [] →
        x = .failed ((said.map (·.2)).filterMap fun b => (outcome b).errors?).flatten) := by
  have undecided {said : List (ι × β)} (h : ∀ e ∈ said, ¬ends e.2) :
      ∀ x ∈ said.map fun e => outcome e.2, ¬x.IsDecided := by
    intro x mem isDecided
    obtain ⟨e, isSaid, rfl⟩ := List.mem_map.1 mem
    exact h e isSaid ((decides e.2).2 isDecided)
  have heard {said : List (ι × β)} (h : ∀ e ∈ said, ¬ends e.2) :
      ∀ b ∈ said.map (·.2), ¬ends b := by
    intro b mem
    obtain ⟨e, isSaid, rfl⟩ := List.mem_map.1 mem
    exact h e isSaid
  rcases h.ended_or_passed with ⟨earlier, i, b, rfl, last, before⟩ | ⟨-, goesOn⟩
  · obtain ⟨d, isDecision⟩ := (decides b).1 last
    refine .inl ⟨earlier.map (·.2), b, List.map_append .., last, heard before, ?_⟩
    rw [product, List.map_append, List.map_singleton, isDecision]
    exact Outcome.prod_append_decided (undecided before) d
  · refine .inr ⟨heard goesOn, ?_⟩
    rw [product]
    simpa [List.filterMap_map, Function.comp_def] using Outcome.prod_of_undecided (undecided goesOn)

/-! ### Trees of unions -/

/-- A tree of unions over some leaves. -/
inductive UnionTree (ι : Type) where
  | leaf (i : ι)
  | union (members : List (UnionTree ι))

namespace UnionTree

variable {ι γ γ' : Type}

mutual

/-- The leaves of a tree, from left to right. -/
def leaves : UnionTree ι → List ι
  | leaf i => [i]
  | union members => leavesOfAll members

/-- The leaves of some trees, from left to right. -/
def leavesOfAll : List (UnionTree ι) → List ι
  | [] => []
  | tree :: rest => leaves tree ++ leavesOfAll rest

end

mutual

/-- What a tree stands for, if it is told what its leaves do, and a union of members. -/
def assemble (leafOf : ι → γ) (unionOf : List γ → γ) : UnionTree ι → γ
  | leaf i => leafOf i
  | union members => unionOf (assembleAll leafOf unionOf members)

/-- What some trees stand for. -/
def assembleAll (leafOf : ι → γ) (unionOf : List γ → γ) : List (UnionTree ι) → List γ
  | [] => []
  | tree :: rest => assemble leafOf unionOf tree :: assembleAll leafOf unionOf rest

end

section InTurn

variable {σ β ε δ ρ : Type} [Monoid ρ] {asks : γ → σ → β → σ → Prop} {ends : β → Prop}
  {outcome : β → Outcome ε δ ρ} {leafOf : ι → γ} {unionOf : List γ → γ}

mutual

/-- **A tree of unions asks its leaves in turn**, and comes to what they come to, if a union asks
its members in turn, and comes to what they come to. -/
theorem inTurn (decides : ∀ b, ends b ↔ (outcome b).IsDecided)
    (flat : ∀ members s b s', asks (unionOf members) s b s' → ∃ said,
      InTurn asks ends members s said s' ∧ outcome b = (said.map fun e => outcome e.2).prod)
    (tree : UnionTree ι) {s s' : σ} {b : β}
    (answer : asks (tree.assemble leafOf unionOf) s b s') : ∃ said,
      InTurn (fun i => asks (leafOf i)) ends tree.leaves s said s' ∧
        outcome b = (said.map fun e => outcome e.2).prod := by
  match tree with
  | leaf i =>
    refine ⟨[(i, b)], ?_, (List.prod_singleton ..).symm⟩
    by_cases last : ends b
    · exact .ended [] answer last
    · exact .passed answer last (.nobody s')
  | union members =>
    obtain ⟨said, turns, product⟩ := flat _ _ _ _ answer
    obtain ⟨leavesSaid, leavesTurns, same⟩ := inTurn_all decides flat members turns
    exact ⟨leavesSaid, leavesTurns, product.trans same⟩

/-- Trees that are asked in turn are their leaves, asked in turn, and the product is the same. -/
theorem inTurn_all (decides : ∀ b, ends b ↔ (outcome b).IsDecided)
    (flat : ∀ members s b s', asks (unionOf members) s b s' → ∃ said,
      InTurn asks ends members s said s' ∧ outcome b = (said.map fun e => outcome e.2).prod)
    (trees : List (UnionTree ι)) {s s' : σ} {said : List (γ × β)}
    (turns : InTurn asks ends (assembleAll leafOf unionOf trees) s said s') : ∃ leavesSaid,
      InTurn (fun i => asks (leafOf i)) ends (leavesOfAll trees) s leavesSaid s' ∧
        (said.map fun e => outcome e.2).prod = (leavesSaid.map fun e => outcome e.2).prod := by
  match trees with
  | [] =>
    cases turns
    exact ⟨[], .nobody s, rfl⟩
  | tree :: rest =>
    -- A tree ends it exactly if one of its leaves does, so the leaves go on where the trees do.
    have ended_iff {b : β} {said : List (ι × β)}
        (product : outcome b = (said.map fun e => outcome e.2).prod) :
        ends b ↔ ∃ e ∈ said, ends e.2 := by
      rw [decides, product, Outcome.isDecided_prod_iff]
      simp [decides]
    cases turns with
    | ended _ answer last =>
      obtain ⟨said, turns, product⟩ := inTurn decides flat tree answer
      refine ⟨said, turns.append_of_ended _ ((ended_iff product).1 last), ?_⟩
      exact (List.prod_singleton ..).trans product
    | passed answer goesOn others =>
      obtain ⟨said, turns, product⟩ := inTurn decides flat tree answer
      obtain ⟨later, laterTurns, same⟩ := inTurn_all decides flat rest others
      refine ⟨said ++ later, turns.append_of_passed (fun e mem last => ?_) laterTurns, ?_⟩
      · exact goesOn ((ended_iff product).2 ⟨e, mem, last⟩)
      · rw [List.map_cons, List.prod_cons, product, same, List.map_append, List.prod_append]

end

end InTurn

section Related

variable {r : γ → γ' → Prop} {leafOf : ι → γ} {leafOf' : ι → γ'} {unionOf : List γ → γ}
  {unionOf' : List γ' → γ'}

mutual

/-- What relates leaves relates trees, if it passes from members to unions. -/
theorem assemble_related (leaves : ∀ i, r (leafOf i) (leafOf' i))
    (unions : ∀ members members', List.Forall₂ r members members' →
      r (unionOf members) (unionOf' members')) (tree : UnionTree ι) :
    r (tree.assemble leafOf unionOf) (tree.assemble leafOf' unionOf') := by
  match tree with
  | leaf i => exact leaves i
  | union members => exact unions _ _ (assembleAll_related leaves unions members)

/-- What holds of leaves and is kept by unions holds of trees, one by one. -/
theorem assembleAll_related (leaves : ∀ i, r (leafOf i) (leafOf' i))
    (unions : ∀ members members', List.Forall₂ r members members' →
      r (unionOf members) (unionOf' members')) (trees : List (UnionTree ι)) :
    List.Forall₂ r (assembleAll leafOf unionOf trees) (assembleAll leafOf' unionOf' trees) := by
  match trees with
  | [] => exact .nil
  | tree :: rest =>
    exact .cons (assemble_related leaves unions tree) (assembleAll_related leaves unions rest)

end

end Related

end UnionTree

/-! ### Calls -/

section Calls

variable {κ σ α β : Type}

/-- A program that adds itself to a list of calls. -/
def logging (call : κ) (program : StateM σ α) : StateM (List κ × σ) α := fun (calls, s) =>
  ((program.run s).1, calls ++ [call], (program.run s).2)

/-- Whatever was called before, a program does what another one does, and adds calls besides. -/
def Logs (program : StateM (List κ × σ) α) (plain : StateM σ α) : Prop :=
  ∀ calls s, ∃ more,
    program.run (calls, s) = ((plain.run s).1, calls ++ more, (plain.run s).2)

namespace Logs

/-- A program that does nothing logs nothing. -/
theorem pure (a : α) : Logs (κ := κ) (σ := σ) (pure a) (pure a) :=
  fun calls s => ⟨[], by rw [List.append_nil]; rfl⟩

/-- A program that logs in both parts does what it does without the log. -/
theorem bind {program : StateM (List κ × σ) α} {plain : StateM σ α}
    {f : α → StateM (List κ × σ) β} {g : α → StateM σ β} (h : Logs program plain)
    (next : ∀ a, Logs (f a) (g a)) : Logs (program >>= f) (plain >>= g) := by
  intro calls s
  obtain ⟨more, first⟩ := h calls s
  obtain ⟨others, second⟩ := next (plain.run s).1 (calls ++ more) (plain.run s).2
  refine ⟨more ++ others, ?_⟩
  rw [StateT.run_bind, first, ← List.append_assoc]
  exact second

/-- A program with one call written down does what it does without. -/
theorem logging (call : κ) (program : StateM σ α) : Logs (logging call program) program :=
  fun _ _ => ⟨[call], rfl⟩

end Logs

/-- The list of calls tells who was asked. -/
theorem InTurn.of_logging {ι : Type} {call : ι → κ} {program : ι → StateM σ β} {ends : β → Prop}
    {list : List ι} {said : List (ι × β)} {before after : List κ × σ}
    (h : InTurn (fun i t b t' => (logging (call i) (program i)).run t = (b, t')) ends list before
      said after) :
    InTurn (fun i s b s' => (program i).run s = (b, s')) ends list before.2 said after.2 ∧
      after.1 = before.1 ++ said.map fun e => call e.1 := by
  induction h with
  | nobody t => exact ⟨.nobody t.2, (List.append_nil _).symm⟩
  | ended rest answer last =>
    cases answer
    exact ⟨.ended rest rfl last, rfl⟩
  | passed answer goesOn others ih =>
    cases answer
    obtain ⟨turns, calls⟩ := ih
    refine ⟨.passed rfl goesOn turns, calls.trans ?_⟩
    exact List.append_assoc ..

end Calls

end TokenAuthority
