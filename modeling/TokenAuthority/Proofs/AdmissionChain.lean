/-
# Chains of plugins

A change passes through a chain of plugins (`Admission.validate_in_turn`):

| | |
| --- | --- |
| who is asked | those that want to see the operation, up to and including the first that objects |
| the outcome | its objection, if there is one |
| the annotations | all that were made, also by the plugin that objects; the first of a key counts |
| anything else | stays |

Annotations are write-once, so the map that they come to is a lookup in the list of all of them, in
the order in which they were made (`Change.find?_noteAll`). What one plugin adds to it needs nothing
of the plugins before; the induction over the chain only appends the lists.

The plugin of this library sees deletions only, and has one of three opinions
(`AuditLogouts.Judges`).
-/

import TokenAuthority.Proofs.Effects
import TokenAuthority.Proofs.InTurn

namespace TokenAuthority

/-- Programs answer, whatever they are given and in whatever world. -/
def Task.Answers {α β : Type} (program : α → Task β) : Prop :=
  ∀ a w, ∃ b w', (program a).run w = (some b, w')

namespace Admission

/-! ### Annotations -/

namespace Change

/-- The change with some annotations made one after the other. -/
def noteAll (change : Change) (notes : List (String × String)) : Change :=
  notes.foldl (fun c note => c.note note.1 note.2) change

/-- An annotation is added if its key has none. -/
theorem find?_note (change : Change) (note : String × String) (key : String) :
    (change.note note.1 note.2).annotations.find? key =
      (change.annotations.find? key).or ([note].lookup key) := by
  rw [KeyedMap.lookup_cons, List.lookup_nil]
  unfold Change.note
  by_cases same : key = note.1
  · subst same
    cases found : change.annotations.find? note.1 <;> simp [found]
  · cases found : change.annotations.find? note.1 <;> simp [same]

/-- The first annotation of a key counts, and one that was there before goes before all. -/
theorem find?_noteAll (change : Change) (notes : List (String × String)) (key : String) :
    (change.noteAll notes).annotations.find? key =
      (change.annotations.find? key).or (notes.lookup key) := by
  induction notes generalizing change with
  | nil => exact Option.or_none.symm
  | cons note rest ih =>
    change ((change.note note.1 note.2).noteAll rest).annotations.find? key = _
    rw [ih, find?_note, Option.or_assoc, ← List.lookup_append, List.singleton_append]

/-- Annotations leave everything else of a change. -/
theorem noteAll_eq (change : Change) (notes : List (String × String)) :
    change.noteAll notes = { change with annotations := (change.noteAll notes).annotations } := by
  induction notes generalizing change with
  | nil => rfl
  | cons note rest ih =>
    have first : change.noteAll (note :: rest) = (change.note note.1 note.2).noteAll rest := rfl
    rw [first]
    unfold Change.note
    split <;> exact ih _

/-- Annotations leave the operation. -/
@[simp] theorem operation_noteAll (change : Change) (notes : List (String × String)) :
    (change.noteAll notes).operation = change.operation := by
  rw [noteAll_eq]

/-- Annotating always comes to an end, with all annotations made. -/
theorem exists_run_annotate (change : Change) (notes : List (String × String)) (w : World) :
    ∃ w', (change.annotate notes : Task Change).run w = (some (change.noteAll notes), w') := by
  induction notes generalizing change w with
  | nil => exact ⟨w, rfl⟩
  | cons note rest ih =>
    unfold annotate
    cases change.conflict? note.1 note.2 with
    | none => exact ih (change.note note.1 note.2) w
    | some warning => exact ih (change.note note.1 note.2) _

end Change

/-! ### Plugins in turn -/

/-- A plugin that is asked about a change in a world has an opinion, and its notes are made. -/
def Plugin.Opines (plugin : Plugin Task) (s : Change × World) (opinion : Opinion)
    (s' : Change × World) : Prop :=
  ∃ w, (plugin.validate s.1).run s.2 = (some opinion, w) ∧
    (s.1.annotate opinion.notes : Task Change).run w = (some s'.1, s'.2)

/-- A plugin that holds this opinion forbids the change. -/
def Opinion.Objects (opinion : Opinion) : Prop :=
  opinion.objection ≠ none

/-- The outcome of what some plugins say: the first objection, if there is one. -/
def verdict (said : List (Plugin Task × Opinion)) : Except Error Unit :=
  match said.findSome? (·.2.objection) with
  | some e => .error e
  | none => .ok ()

/-- The notes of a plugin are all that it does to a change. -/
theorem Plugin.Opines.eq_noteAll {plugin : Plugin Task} {s s' : Change × World} {opinion : Opinion}
    (opines : plugin.Opines s opinion s') : s'.1 = s.1.noteAll opinion.notes := by
  obtain ⟨w, -, annotated⟩ := opines
  obtain ⟨w', ran⟩ := s.1.exists_run_annotate opinion.notes w
  exact Option.some.inj (congrArg Prod.fst (annotated.symm.trans ran))

/-- A chain asks the plugins that want to see the operation in turn, and comes to their verdict. -/
theorem exists_inTurn_validate {plugins : List (Plugin Task)}
    (answers : ∀ plugin ∈ plugins, Task.Answers plugin.validate) (change : Change) (w : World) :
    ∃ said final w',
      InTurn Plugin.Opines Opinion.Objects (plugins.filter (change.operation ∈ ·.operations))
        (change, w) said (final, w') ∧
      (validate plugins change).run w = (some (final, verdict said), w') := by
  induction plugins generalizing change w with
  | nil => exact ⟨[], change, w, .nobody _, rfl⟩
  | cons plugin rest ih =>
    obtain ⟨first, others⟩ := List.forall_mem_cons.1 answers
    unfold validate
    by_cases wants : change.operation ∈ plugin.operations
    · obtain ⟨opinion, w₁, asked⟩ := first change w
      obtain ⟨w₂, annotated⟩ := change.exists_run_annotate opinion.notes w₁
      have opines : plugin.Opines (change, w) opinion (change.noteAll opinion.notes, w₂) :=
        ⟨w₁, asked, annotated⟩
      rw [List.filter_cons, if_pos (decide_eq_true wants), if_pos (Plugin.handles_iff.2 wants),
        Task.bind_eq, Task.run_bind_of_some asked, Task.bind_eq, Task.run_bind_of_some annotated]
      cases objects : opinion.objection with
      | some e =>
        refine ⟨[(plugin, opinion)], _, w₂, .ended _ opines ?_, ?_⟩
        · exact fun none => Option.some_ne_none e (objects.symm.trans none)
        · simp [verdict, objects]
      | none =>
        obtain ⟨said, final, w', turns, ran⟩ := ih others (change.noteAll opinion.notes) w₂
        -- Annotations leave the operation, so the same plugins are left out behind this one.
        rw [Change.operation_noteAll] at turns
        refine ⟨_, final, w', turns.passed opines (not_not.2 objects), ?_⟩
        simpa [verdict, objects] using ran
    · rw [List.filter_cons, if_neg (mt of_decide_eq_true wants),
        if_neg (mt Plugin.handles_iff.1 wants)]
      exact ih others change w

/-- The annotations of a change after some plugins were asked. -/
theorem find?_of_inTurn {list : List (Plugin Task)} {s s' : Change × World}
    {said : List (Plugin Task × Opinion)}
    (turns : InTurn Plugin.Opines Opinion.Objects list s said s') (key : String) :
    s'.1.annotations.find? key =
      (s.1.annotations.find? key).or ((said.flatMap (·.2.notes)).lookup key) := by
  induction turns with
  | nobody s => exact Option.or_none.symm
  | ended rest opines objects =>
    rw [opines.eq_noteAll, Change.find?_noteAll, List.flatMap_singleton]
  | passed opines goesOn others ih =>
    rw [ih, opines.eq_noteAll, Change.find?_noteAll, Option.or_assoc, ← List.lookup_append,
      List.flatMap_cons]

/-! ### The plugin of this library -/

namespace AuditLogouts

/-- The opinion of the plugin on a change. -/
inductive Judges (change : Change) : Opinion → Prop where
  | elsewhere (other : change.resource ≠ accessTokens) : Judges change {}
  | owned {owner : String} (about : change.resource = accessTokens)
      (owned : change.object.bind (·.owner?) = some owner) :
      Judges change { notes := [(ownerKey, owner)] }
  | unowned (about : change.resource = accessTokens)
      (unowned : change.object.bind (·.owner?) = none) :
      Judges change {
        objection := some (.forbidden change.resource.text change.name (reason change)) }

/-- The plugin wants to see deletions only. -/
theorem mem_operations_iff (operation : Operation) :
    operation ∈ (plugin : Plugin Task).operations ↔ operation = .delete :=
  List.mem_singleton

/-- The plugin has nothing to say about other resources. -/
theorem validate_elsewhere {change : Change} (other : change.resource ≠ accessTokens) :
    (plugin : Plugin Task).validate change = pure {} :=
  if_pos other

/-- The plugin always has one of its three opinions. -/
theorem exists_judges (change : Change) (w : World) : ∃ opinion w',
    ((plugin : Plugin Task).validate change).run w = (some opinion, w') ∧
      Judges change opinion := by
  by_cases about : change.resource = accessTokens
  · cases owner : change.object.bind (·.owner?) with
    | some owner =>
      have noted : (plugin : Plugin Task).validate change = _ := validate_of_owned about owner
      exact ⟨_, _, by rw [noted]; rfl, .owned about owner⟩
    | none =>
      refine ⟨_, w, ?_, .unowned about owner⟩
      change (validate change : Task Opinion).run w = _
      unfold validate
      rw [if_neg (not_not.2 about), owner]
      rfl
  · exact ⟨_, w, by rw [validate_elsewhere about]; rfl, .elsewhere about⟩

/-- The plugin always answers. -/
theorem answers : Task.Answers (plugin : Plugin Task).validate := fun change w =>
  have ⟨opinion, w', ran, _⟩ := exists_judges change w
  ⟨opinion, w', ran⟩

/-- What the plugin says in a chain is one of its three opinions. -/
theorem judges_of_opines {s s' : Change × World} {opinion : Opinion}
    (opines : (plugin : Plugin Task).Opines s opinion s') : Judges s.1 opinion := by
  obtain ⟨w, asked, -⟩ := opines
  obtain ⟨judged, w', ran, judges⟩ := exists_judges s.1 s.2
  cases asked.symm.trans ran
  exact judges

/-- The opinion does not depend on annotations. -/
theorem Judges.of_annotated {change asked : Change} {opinion : Opinion}
    (same : asked = { change with annotations := asked.annotations })
    (judges : Judges asked opinion) : Judges change opinion := by
  rw [same] at judges
  cases judges with
  | elsewhere other => exact .elsewhere other
  | owned about owned => exact .owned about owned
  | unowned about unowned => exact .unowned about unowned

end AuditLogouts

/-! ### The chain -/

/-- **Plugins are asked in turn, up to and including the first that objects.** Those that do not
want to see the operation are left out. Annotations are write-once, and all that were made stay,
also if the change is forbidden; nothing else of it is touched. The audit event has the same
annotations. The plugin of this library is asked about deletions only, and notes the owner of an
access token. -/
theorem validate_in_turn {plugins : List (Plugin Task)}
    (answers : ∀ plugin ∈ plugins, Task.Answers plugin.validate) (change : Change)
    (before : List (String × String)) (w : World) :
    ∃ prepared w₁ said final w',
      (change.annotate before : Task Change).run w = (some prepared, w₁) ∧
      InTurn Plugin.Opines Opinion.Objects (plugins.filter (change.operation ∈ ·.operations))
        (prepared, w₁) said (final, w') ∧
      (validate plugins prepared).run w₁ = (some (final, verdict said), w') ∧
      (∀ key, final.annotations.find? key = (change.annotations.find? key).or
        ((before ++ said.flatMap (·.2.notes)).lookup key)) ∧
      final = { change with annotations := final.annotations } ∧
      (∀ verb code, final.auditEvent verb code = {
        verb
        resource := change.resource.text
        name := change.name
        user := (change.user.map (·.name)).getD ""
        annotations := final.annotations
        code }) ∧
      (∀ operation, operation ∈ (AuditLogouts.plugin : Plugin Task).operations ↔
        operation = .delete) ∧
      (∀ asked : Change, asked.resource ≠ AuditLogouts.accessTokens →
        (AuditLogouts.plugin : Plugin Task).validate asked = pure {}) ∧
      ∀ opinion, (AuditLogouts.plugin, opinion) ∈ said →
        change.operation = .delete ∧ AuditLogouts.Judges change opinion := by
  obtain ⟨w₁, annotated⟩ := change.exists_run_annotate before w
  obtain ⟨said, final, w', turns, ran⟩ :=
    exists_inTurn_validate answers (change.noteAll before) w₁
  rw [Change.operation_noteAll] at turns
  have step (plugin : Plugin Task) (s : Change × World) (opinion : Opinion) (s' : Change × World)
      (opines : plugin.Opines s opinion s')
      (same : s.1 = { change with annotations := s.1.annotations }) :
      s'.1 = { change with annotations := s'.1.annotations } := by
    rw [opines.eq_noteAll, Change.noteAll_eq, same]
  obtain ⟨unchanged, asked⟩ := turns.keeps step (change.noteAll_eq before)
  have same : final = { change with annotations := final.annotations } := unchanged
  refine ⟨_, w₁, said, final, w', annotated, turns, ran, fun key => ?_, same, fun verb code => ?_,
    AuditLogouts.mem_operations_iff, fun _ => AuditLogouts.validate_elsewhere,
    fun opinion mem => ?_⟩
  · rw [find?_of_inTurn turns, Change.find?_noteAll, Option.or_assoc, ← List.lookup_append]
  · rw [same]
    rfl
  · obtain ⟨inList, s, s', sameAsked, opines⟩ := asked _ mem
    have wanted := of_decide_eq_true (List.mem_filter.1 inList).2
    refine ⟨(AuditLogouts.mem_operations_iff _).1 wanted, ?_⟩
    exact (AuditLogouts.judges_of_opines opines).of_annotated sameAsked

/-- A token of `alice` is deleted, and a key is annotated twice before. -/
theorem validate_in_turn_alice :
    (∀ plugin ∈ [(AuditLogouts.plugin : Plugin Task)], Task.Answers plugin.validate) ∧
    ∃ prepared w final w',
      ((Change.deleting (.named "admin") "tok" { userName := "alice" }).annotate
        [("seen", "first"), ("seen", "second")] : Task Change).run .aliceHolds =
          (some prepared, w) ∧
      (validate [AuditLogouts.plugin] prepared : Task _).run w = (some (final, .ok ()), w') ∧
      final.annotations.find? "seen" = some "first" ∧
      final.annotations.find? AuditLogouts.ownerKey = some "alice" := by
  have answers : ∀ plugin ∈ [(AuditLogouts.plugin : Plugin Task)], Task.Answers plugin.validate :=
    List.forall_mem_singleton.2 AuditLogouts.answers
  obtain ⟨prepared, w, said, final, w', annotated, turns, ran, noted, -, -, -, -, judged⟩ :=
    validate_in_turn answers (.deleting (.named "admin") "tok" { userName := "alice" })
      [("seen", "first"), ("seen", "second")] .aliceHolds
  obtain ⟨opinion, rfl⟩ : ∃ opinion, said = [(AuditLogouts.plugin, opinion)] := by
    cases turns with
    | ended => exact ⟨_, rfl⟩
    | passed _ _ others => cases others; exact ⟨_, rfl⟩
  cases (judged opinion List.mem_cons_self).2 with
  | elsewhere other => exact absurd rfl other
  | unowned _ unowned => exact nomatch unowned
  | owned _ owned =>
    cases owned
    exact ⟨answers, prepared, w, final, w', annotated, ran, by rw [noted]; rfl, by rw [noted]; rfl⟩

end Admission
end TokenAuthority
