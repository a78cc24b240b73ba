/-
# The registry and the chains that it builds

Names and factories are kept apart, in a list and in a map. Whatever is registered, they agree
(`Registry.Holds`):

| | after some registrations |
| --- | --- |
| the order | their names, each at its first place |
| the factory of a name | the last one that was registered under it |

One registration keeps that (`Holds.register`), and so does any number of them. A chain is looked up
through the order, so there is a factory for each name in it, and no lookup fails. Who is called,
with which contents of a configuration file, and where it stops is told by `exists_inTurn_build`.
The file of a plugin lies in the directory of such files, under the name of the plugin with `_` for
each `/` (`LiesAt`), and it matters what is there (`Configures`):

| what is there | what becomes of the plugin |
| --- | --- |
| a file | its factory is given the contents |
| nothing, or something else than a file | its factory is given nothing |
| a file that cannot be opened | none, and its factory is not called |
-/

import TokenAuthority.Admission.Registry
import TokenAuthority.Files
import TokenAuthority.Proofs.AdmissionChain
import TokenAuthority.Proofs.Entries

namespace TokenAuthority
namespace Admission
namespace Registry

/-! ### Registrations -/

/-- A name with the factory that is registered under it. -/
abbrev Registration : Type := String × Factory Task

/-- A registry holds what some registrations left in it, from the first to the last. -/
structure Holds (r : Registry Task) (registrations : List Registration) : Prop where
  order : r.order = (registrations.map (·.1)).eraseDups
  nodup : r.order.Nodup
  factories (name : String) : r.factories.find? name = registrations.reverse.lookup name

/-- Registers some factories one after the other. -/
def enrollAll (r : Registry Task) (registrations : List Registration) : Task (Registry Task) :=
  registrations.foldlM (fun r e => r.enroll e.1 e.2) r

/-- The registries to begin with, and what was registered there. -/
inductive IsInitial : Registry Task → List Registration → Prop where
  | empty : IsInitial {} []
  | builtin : IsInitial .builtin [(AuditLogouts.name, fun _ => pure (.ok AuditLogouts.plugin))]

variable {r start : Registry Task} {registrations initial : List Registration}

/-- The registry knows the names that were registered. -/
theorem Holds.knows_iff (h : r.Holds registrations) (name : String) :
    r.knows name = true ↔ name ∈ registrations.map (·.1) := by
  unfold knows
  rw [h.factories, KeyedMap.isSome_lookup, List.map_reverse, List.mem_reverse]

/-- The names that are listed are those that it knows. -/
theorem Holds.mem_order_iff (h : r.Holds registrations) (name : String) :
    name ∈ r.order ↔ r.knows name = true := by
  rw [h.knows_iff, h.order, List.mem_eraseDups]

/-- One registration more is held behind the others. -/
theorem Holds.register (h : r.Holds registrations) (name : String) (factory : Factory Task) :
    (r.register name factory).Holds (registrations ++ [(name, factory)]) := by
  have order : (r.register name factory).order =
      if r.knows name then r.order else r.order ++ [name] := rfl
  refine ⟨?_, ?_, fun other => ?_⟩
  · rw [order, List.map_append, List.eraseDups_append, ← h.order]
    by_cases known : r.knows name
    · simp [known, List.removeAll, (h.knows_iff name).1 known]
    · have fresh : name ∉ registrations.map (·.1) := fun mem => known ((h.knows_iff name).2 mem)
      have new : [name].removeAll (registrations.map (·.1)) = [name] := by
        simpa [List.removeAll] using fresh
      rw [if_neg known, List.map_singleton, new, List.eraseDups_cons, List.filter_nil,
        List.eraseDups_nil]
  · rw [order]
    split
    · exact h.nodup
    · rename_i unknown
      refine List.nodup_append.2 ⟨h.nodup, List.nodup_singleton name, ?_⟩
      rintro a mem b mem' rfl
      obtain rfl := List.mem_singleton.1 mem'
      exact unknown ((h.mem_order_iff a).1 mem)
  · change (r.factories.insert name factory).find? other = _
    rw [KeyedMap.find?_insert, h.factories, List.reverse_append, List.reverse_singleton,
      List.singleton_append, KeyedMap.lookup_cons]

/-- A new registry holds what it was made with. -/
theorem Holds.of_isInitial (isInitial : IsInitial r registrations) : r.Holds registrations := by
  have empty : ({} : Registry Task).Holds [] := ⟨rfl, .nil, fun _ => rfl⟩
  cases isInitial with
  | empty => exact empty
  | builtin => exact empty.register _ _

/-- Registrations are held after those that were there. -/
theorem exists_run_enrollAll (h : start.Holds initial) (registrations : List Registration)
    (w : World) : ∃ r w', (start.enrollAll registrations).run w = (some r, w') ∧
      r.Holds (initial ++ registrations) := by
  induction registrations generalizing start initial w with
  | nil => exact ⟨start, w, rfl, by rwa [List.append_nil]⟩
  | cons e rest ih =>
    obtain ⟨w₁, enrolled⟩ : ∃ w₁, (start.enroll e.1 e.2 : Task _).run w =
        (some (start.register e.1 e.2), w₁) := by
      unfold enroll
      cases start.knows e.1 with
      | true => exact ⟨_, rfl⟩
      | false => exact ⟨_, rfl⟩
    obtain ⟨r, w', ran, holds⟩ := ih (h.register e.1 e.2) w₁
    refine ⟨r, w', ?_, by rwa [List.append_cons]⟩
    unfold enrollAll
    rw [List.foldlM_cons, Task.bind_eq, Task.run_bind_of_some enrolled]
    exact ran

/-! ### Chains -/

/-- One name is the other with `_` for each `/`. -/
def Renames (plugin file : String) : Prop :=
  List.Forall₂ (fun c d => d = if c = '/' then '_' else c) plugin.toList file.toList

/-- Where the configuration file of a plugin lies: in a directory, behind one separator, under the
name of the plugin with `_` for each `/`. -/
inductive LiesAt (parent plugin : String) : String → Prop where
  | joined {file : String} (separated : parent = "" ∨ parent.toList.getLast? = some '/')
      (renames : Renames plugin file) : LiesAt parent plugin (parent ++ file)
  | separated {file : String} (nonempty : parent ≠ "")
      (unseparated : parent.toList.getLast? ≠ some '/') (renames : Renames plugin file) :
      LiesAt parent plugin (parent ++ "/" ++ file)

/-- What is found as the configuration of a plugin: the contents of its file, if there is a
directory of such files and a file in it. Something else than a file counts as nothing, and a file
that cannot be opened is an error that tells where it lies. -/
inductive Configures (files : Files Task) (directory : Option String) (plugin : String)
    (w : World) : Except String (Option String) → World → Prop where
  | unset (isUnset : directory = none) : Configures files directory plugin w (.ok none) w
  | found {parent path text : String} {w' : World} (isSet : directory = some parent)
      (liesAt : LiesAt parent plugin path)
      (contents : (files path).run w = (some (.ok text), w')) :
      Configures files directory plugin w (.ok (some text)) w'
  | missing {parent path : String} {w' : World} (isSet : directory = some parent)
      (liesAt : LiesAt parent plugin path)
      (nothing : (files path).run w = (some (.error .missing), w')) :
      Configures files directory plugin w (.ok none) w'
  | irregular {parent path detail : String} {w' : World} (isSet : directory = some parent)
      (liesAt : LiesAt parent plugin path)
      (other : (files path).run w = (some (.error (.irregular detail)), w')) :
      Configures files directory plugin w (.ok none) w'
  | unreadable {parent path detail : String} {w' : World} (isSet : directory = some parent)
      (liesAt : LiesAt parent plugin path)
      (unopened : (files path).run w = (some (.error (.unreadable detail)), w')) :
      Configures files directory plugin w (.error (path ++ ": " ++ detail)) w'

/-- What was found as the configuration of a plugin, and what came of it. -/
structure Made where
  configuration : Except String (Option String)
  result : Except Error (Plugin Task)

/-- How a plugin is made. Its factory is given the configuration, and comes to a result. If the
configuration file cannot be opened, the factory is not called. -/
inductive Makes (r : Registry Task) (files : Files Task) (directory : Option String)
    (plugin : String) (w : World) : Made → World → Prop where
  | called {factory : Factory Task} {text : Option String}
      {result : Except Error (Plugin Task)} {w₁ w' : World}
      (found : r.factories.find? plugin = some factory)
      (configures : Configures files directory plugin w (.ok text) w₁)
      (ran : (factory text).run w₁ = (some result, w')) :
      Makes r files directory plugin w ⟨.ok text, result⟩ w'
  | unopened {reason : String} {w' : World}
      (configures : Configures files directory plugin w (.error reason) w') :
      Makes r files directory plugin w
        ⟨.error reason, .error (.configuration plugin reason)⟩ w'

/-- A plugin could not be made. -/
def Made.Fails (made : Made) : Prop :=
  ∃ e, made.result = .error e

/-- The plugins that were made, or the first error. -/
def collect (said : List (String × Made)) : Except Error (List (Plugin Task)) :=
  said.mapM (·.2.result)

/-- The name of a configuration file is the name of the plugin but for the separators. -/
theorem renames_fileName (plugin : String) : Renames plugin (fileName plugin) := by
  unfold Renames fileName
  rw [String.toList_ofList, List.forall₂_map_right_iff, List.forall₂_same]
  exact fun _ _ => rfl

/-- The configuration file is looked for where it lies. -/
theorem liesAt_inDirectory (parent plugin : String) :
    LiesAt parent plugin (Files.inDirectory parent (fileName plugin)) := by
  unfold Files.inDirectory
  split
  · rename_i ends
    rw [Bool.or_eq_true, decide_eq_true_eq, decide_eq_true_eq] at ends
    exact .joined ends (renames_fileName plugin)
  · rename_i ends
    rw [Bool.or_eq_true, decide_eq_true_eq, decide_eq_true_eq, not_or] at ends
    exact .separated ends.1 ends.2 (renames_fileName plugin)

/-- Reading the configuration of a plugin finds what there is. -/
theorem exists_configures {files : Files Task} (answers : Task.Answers files)
    (directory : Option String) (plugin : String) (w : World) : ∃ opened w',
      (files.contents? directory (fileName plugin)).run.run w = (some opened, w') ∧
        Configures files directory plugin w opened w' := by
  cases directory with
  | none => exact ⟨.ok none, w, rfl, .unset rfl⟩
  | some parent =>
    have liesAt := liesAt_inDirectory parent plugin
    obtain ⟨contents, w', ran⟩ := answers (Files.inDirectory parent (fileName plugin)) w
    cases contents with
    | ok text => exact ⟨_, w', Task.run_bind_of_some ran, .found rfl liesAt ran⟩
    | error e =>
      cases e with
      | missing => exact ⟨_, w', Task.run_bind_of_some ran, .missing rfl liesAt ran⟩
      | irregular detail => exact ⟨_, w', Task.run_bind_of_some ran, .irregular rfl liesAt ran⟩
      | unreadable detail => exact ⟨_, w', Task.run_bind_of_some ran, .unreadable rfl liesAt ran⟩

/-- The plugins of a chain are made one after the other, up to the first that cannot be made. -/
theorem exists_inTurn_build {files : Files Task} (readable : Task.Answers files)
    (directory : Option String) {names : List String}
    (registered : ∀ name ∈ names, ∃ factory, r.factories.find? name = some factory ∧
      Task.Answers factory) (w : World) : ∃ said w',
      InTurn (r.Makes files directory) Made.Fails names w said w' ∧
      (r.build (files.contents? directory) names).run w = (some (collect said), w') := by
  induction names generalizing w with
  | nil => exact ⟨[], w, .nobody w, rfl⟩
  | cons name rest ih =>
    obtain ⟨⟨factory, found, answers⟩, others⟩ := List.forall_mem_cons.1 registered
    obtain ⟨opened, w₁, read, configures⟩ := exists_configures readable directory name w
    unfold build
    rw [found]
    dsimp only [Backend.orAbandon, Task.pure_eq, Task.bind_eq, Task.done_bind]
    rw [Task.run_bind_of_some read]
    cases opened with
    | error reason =>
      -- the chain ends before the factory is called
      exact ⟨_, w₁, .ended rest (.unopened configures) ⟨_, rfl⟩, rfl⟩
    | ok text =>
      obtain ⟨result, w₂, ran⟩ := answers text w₁
      have makes : r.Makes files directory name w ⟨.ok text, result⟩ w₂ :=
        .called found configures ran
      dsimp only
      rw [Task.run_bind_of_some ran]
      cases result with
      | error e => exact ⟨_, w₂, .ended rest makes ⟨e, rfl⟩, rfl⟩
      | ok plugin =>
        obtain ⟨said, w', turns, built⟩ := ih others w₂
        refine ⟨_, w', turns.passed makes (by rintro ⟨_, ⟨⟩⟩), ?_⟩
        dsimp only
        rw [Task.run_bind_of_some built]
        unfold collect
        rw [List.mapM_cons]
        cases said.mapM (·.2.result) <;> rfl

/-- Names that are not known are found out before anything is called. -/
theorem Holds.chain_of_unknown (h : r.Holds registrations) {earlier later : List String}
    {unknown : String} (known : ∀ name ∈ earlier, name ∈ r.order) (isUnknown : unknown ∉ r.order)
    (configuration : String → ExceptT String Task (Option String)) :
    r.chain (earlier ++ unknown :: later) configuration =
      pure (.error (.unknownPlugin unknown)) := by
  have first : (earlier ++ unknown :: later).find? (fun name => !r.knows name) = some unknown := by
    rw [List.find?_eq_some_iff_append]
    refine ⟨?_, earlier, later, rfl, fun name mem => ?_⟩
    · rw [Bool.not_eq_true', Bool.eq_false_iff]
      exact fun isKnown => isUnknown ((h.mem_order_iff unknown).2 isKnown)
    · rw [Bool.not_not]
      exact (h.mem_order_iff name).1 (known name mem)
  unfold chain
  rw [first]

/-- Where every enabled plugin is known, the chain is that of the listed names that are enabled. -/
theorem Holds.chain_of_known (h : r.Holds registrations) {enabled : List String}
    (known : ∀ name ∈ enabled, name ∈ r.order)
    (configuration : String → ExceptT String Task (Option String)) :
    r.chain enabled configuration =
      r.build configuration (r.order.filter (enabled.contains ·)) := by
  have none : enabled.find? (fun name => !r.knows name) = none := by
    refine List.find?_eq_none.2 fun name mem => ?_
    rw [(h.mem_order_iff name).1 (known name mem)]
    exact nofun
  unfold chain
  rw [none]

/-- There is a factory for each name in the order. -/
theorem Holds.exists_factory (h : r.Holds registrations)
    (answers : ∀ e ∈ registrations, Task.Answers e.2) {name : String} (mem : name ∈ r.order) :
    ∃ factory, r.factories.find? name = some factory ∧ Task.Answers factory := by
  obtain ⟨factory, found⟩ := Option.isSome_iff_exists.1 ((h.mem_order_iff name).1 mem)
  have registered := KeyedMap.mem_of_lookup ((h.factories name).symm.trans found)
  exact ⟨factory, found, answers _ (List.mem_reverse.1 registered)⟩

/-- The factories that a new registry has answer. -/
theorem IsInitial.answers (isInitial : IsInitial r registrations) :
    ∀ e ∈ registrations, Task.Answers e.2 := by
  cases isInitial with
  | empty => exact List.forall_mem_nil _
  | builtin => exact List.forall_mem_singleton.2 fun _ w => ⟨_, w, rfl⟩

/-- **The registry builds the chain of the enabled plugins.** After any registrations the order has
each name once, where it came first, and is what there are factories for, of which the last counts.
The first enabled name that is not registered is an error, and nothing is called then. Otherwise the
plugins of the enabled names are made in the order of the registry, each once, up to and including
the first that fails: its factory is called with the contents of its file, if there is one, unless
that cannot be opened. -/
theorem chain_builds_enabled (isInitial : IsInitial start initial)
    (registrations : List Registration) (w : World) :
    ∃ r w₁, (start.enrollAll registrations).run w = (some r, w₁) ∧
      r.order = ((initial ++ registrations).map (·.1)).eraseDups ∧
      r.order.Nodup ∧
      (∀ name, name ∈ r.order ↔ (r.factories.find? name).isSome = true) ∧
      (∀ name, r.factories.find? name = (initial ++ registrations).reverse.lookup name) ∧
      (∀ earlier unknown later configuration, (∀ name ∈ earlier, name ∈ r.order) →
        unknown ∉ r.order → r.chain (earlier ++ unknown :: later) configuration =
          pure (.error (.unknownPlugin unknown))) ∧
      ∀ (files : Files Task) directory enabled w₂, Task.Answers files →
        (∀ e ∈ registrations, Task.Answers e.2) → (∀ name ∈ enabled, name ∈ r.order) →
        ∃ said w',
          InTurn (r.Makes files directory) Made.Fails (r.order.filter (enabled.contains ·)) w₂ said
            w' ∧
          (r.chain enabled (files.contents? directory)).run w₂ = (some (collect said), w') := by
  obtain ⟨r, w₁, ran, holds⟩ := exists_run_enrollAll (.of_isInitial isInitial) registrations w
  refine ⟨r, w₁, ran, holds.order, holds.nodup, holds.mem_order_iff, holds.factories,
    fun _ _ _ configuration known isUnknown => holds.chain_of_unknown known isUnknown configuration,
    fun files directory enabled w₂ readable answers known => ?_⟩
  rw [holds.chain_of_known known]
  refine exists_inTurn_build readable directory (fun name mem => ?_) w₂
  refine holds.exists_factory (fun e registered => ?_) (List.mem_filter.1 mem).1
  exact (List.mem_append.1 registered).elim (isInitial.answers e) (answers e)

/-- A plugin whose configuration file cannot be opened is not built: its factory is not called, and
the error names the plugin and the file. -/
example :
    ((({} : Registry Task).register "a/first" fun _ => .abandoned).chain ["a/first"]
      (Files.contents? (fun _ => pure (.error (.unreadable "Permission denied"))) (some "conf"))) =
      pure (.error (.configuration "a/first" "conf/a_first: Permission denied")) := by
  rfl

/-- A plugin that is interested in nothing. -/
def idlePlugin (name : String) : Plugin Task where
  name := name
  operations := []
  validate := fun _ => return {}

/-- One name is registered twice, and the enabled names are in another order. -/
theorem chain_builds_enabled_idle :
    let registrations : List Registration :=
      [("a/first", fun _ => pure (.ok (idlePlugin "old"))),
        ("a/second", fun _ => pure (.ok (idlePlugin "second"))),
        ("a/first", fun text => pure (.ok (idlePlugin (text.getD "first"))))]
    let files : Files Task := fun path =>
      pure (if path = "conf/a_first" then .ok "set" else .error (.irregular "Is a directory"))
    IsInitial {} [] ∧ Task.Answers files ∧ (∀ e ∈ registrations, Task.Answers e.2) ∧
    ∃ r w₁ said w', (enrollAll {} registrations).run .aliceHolds = (some r, w₁) ∧
      r.order = ["a/first", "a/second"] ∧
      InTurn (r.Makes files (some "conf")) Made.Fails ["a/first", "a/second"] w₁ said w' ∧
      (r.chain ["a/second", "a/first", "a/second"] (files.contents? (some "conf"))).run w₁ =
        (some (collect said), w') ∧
      r.chain ["a/first", "b", "c"] (files.contents? none) =
        pure (.error (.unknownPlugin "b")) := by
  intro registrations files
  have readable : Task.Answers files := fun _ w => ⟨_, w, rfl⟩
  have answers : ∀ e ∈ registrations, Task.Answers e.2 := by
    simp only [registrations, List.forall_mem_cons]
    exact ⟨fun _ w => ⟨_, w, rfl⟩, fun _ w => ⟨_, w, rfl⟩, fun _ w => ⟨_, w, rfl⟩,
      List.forall_mem_nil _⟩
  obtain ⟨r, w₁, ran, isOrder, -, -, -, unknown, known⟩ :=
    chain_builds_enabled .empty registrations .aliceHolds
  have order : r.order = ["a/first", "a/second"] := isOrder.trans (by decide)
  obtain ⟨said, w', turns, built⟩ :=
    known files (some "conf") ["a/second", "a/first", "a/second"] w₁ readable answers
      (by rw [order]; decide)
  rw [order] at turns
  refine ⟨.empty, readable, answers, r, w₁, said, w', ran, order, turns, built, ?_⟩
  exact unknown ["a/first"] "b" ["c"] _ (by rw [order]; decide) (by rw [order]; decide)

end Registry
end Admission
end TokenAuthority
