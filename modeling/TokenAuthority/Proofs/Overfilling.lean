/-
# How many objects a store comes to hold

A creation asks whether there is room, and puts its object in afterwards. In between, other requests
may do the same, and then all of them have been told that there is room, if only for one of them.
So a store can come to hold more objects than its capacity (`Pool.Run.overfilled`).

It goes over its capacity by less than the number of names under which objects are about to be put
in at the same time (`Pool.Run.size_le`); in particular it does not, if that is at most one name at
any moment. A store with a single free place can come to hold all objects that are created at the
same time, however many (`Pool.exists_run_filling`).
-/

import Mathlib.Data.Fin.VecNotation
import Mathlib.Data.Set.Card
import TokenAuthority.Proofs.BoundedMap
import TokenAuthority.Proofs.Interleaving

namespace TokenAuthority

open Time (Instant)

variable {c : Collection}

namespace Store

variable {α : Type} [Stored α]

/-- No call changes how many objects a store may have. -/
theorem capacity_perform (s : Store α) (op : Call α) : (s.perform op).2.capacity = s.capacity := by
  cases op with
  | find name => rfl
  | checkRoom name => rw [perform_checkRoom_store]
  | health => rw [perform_health_store]
  | insert object => dsimp only [perform]; split <;> rfl
  | replace object => dsimp only [perform]; split <;> rfl
  | remove name => dsimp only [perform]; split <;> rfl

/-- A store has one object more when one is put in under a free name. -/
theorem size_put {s : Store α} {object : α} (free : s.find? (Stored.name object) = none) :
    (s.put object).size = s.size + 1 := by
  have absent : Stored.name object ∉ s.objects.entries.map Prod.fst := by
    rw [← KeyedMap.isSome_lookup]
    exact Option.not_isSome_iff_eq_none.2 free
  exact (KeyedMap.insertEntry_perm absent object).length_eq

end Store

/-- No call changes how many objects a store of the world may have. -/
theorem World.capacity_perform (w : World) (call : Call) :
    ((w.perform call).2.store c).capacity = (w.store c).capacity := by
  obtain same | ⟨op, -, store⟩ := w.store_perform c call
  · rw [same]
  · rw [store, Store.capacity_perform]

namespace Task

variable {α : Type}

/-- The name under which a task is about to put an object in. -/
def putting? (c : Collection) : Task α → Option String
  | call (.store d (.insert object)) _ => if d = c then some (Stored.name object) else none
  | _ => none

/-- Whether a task puts objects in only right after it was told that there is room. -/
def AsksFirst (c : Collection) : Task α → Prop
  | done _ => True
  | abandoned => True
  | call k next => ∀ answer, (next answer).AsksFirst c ∧
    ∀ name, (next answer).putting? c = some name →
      (⟨k, answer⟩ : Exchange) = ⟨.store c (.checkRoom name), .ok ()⟩

/-- A task whose next call puts an object in is about to do so under its name. -/
theorem putting?_insert (object : c.Object) (next : Except StoreError c.Object → Task α) :
    (call (.store c (.insert object)) next).putting? c = some (Stored.name object) :=
  if_pos rfl

end Task

/-- The first call of an operation puts nothing in. -/
theorem Operation.putting?_task (op : Operation c) : op.task.putting? c = none := by
  cases op with
  | get name => rfl
  | update object => rfl
  | delete name => rfl
  | create object =>
    by_cases named : Stored.name object = ""
    · rw [task_create_of_unnamed named]
      rfl
    · obtain ⟨next, is, -⟩ := exists_task_create named
      rw [is]
      rfl

/-- A creation asks first. -/
theorem Operation.asksFirst_task (op : Operation c) : op.task.AsksFirst c := by
  cases op with
  | get name => exact fun _ => ⟨trivial, nofun⟩
  | update object => exact fun _ => ⟨trivial, nofun⟩
  | delete name => exact fun _ => ⟨trivial, nofun⟩
  | create object =>
    by_cases named : Stored.name object = ""
    · rw [task_create_of_unnamed named]
      trivial
    · obtain ⟨next, is, refused, allowed⟩ := exists_task_create named
      rw [is]
      refine fun now => ⟨fun room => ?_, nofun⟩
      cases room with
      | error e =>
        rw [refused]
        exact ⟨trivial, nofun⟩
      | ok allow =>
        rw [allowed]
        refine ⟨fun stored => ⟨trivial, nofun⟩, fun name putting => ?_⟩
        obtain rfl := Option.some.inj ((Task.putting?_insert _ _).symm.trans putting)
        rfl

namespace Pool

variable {ι α : Type}

/-- The names under which requests are about to put objects in. -/
def putting (s : Pool ι α) (c : Collection) : Set String :=
  {name | ∃ i, (s.tasks i).putting? c = some name}

/-- The names that are taken or about to be. -/
def claimed (s : Pool ι α) (c : Collection) : Set String :=
  (s.world.store c).contents.keys ∪ s.putting c

/-- A name that is taken is claimed. -/
theorem mem_claimed_of_taken {s : Pool ι α} {name : String} {object : c.Object}
    (h : (s.world.store c).find? name = some object) : name ∈ s.claimed c :=
  .inl (Finmap.mem_keys.2 (Store.mem_contents_of_find? h))

/-- Each request puts in one object at a time. -/
theorem encard_putting_le (s : Pool ι α) (c : Collection) : (s.putting c).encard ≤ ENat.card ι := by
  have among : some '' s.putting c ⊆ (fun i => (s.tasks i).putting? c) '' Set.univ := by
    rintro _ ⟨name, ⟨i, putting⟩, rfl⟩
    exact ⟨i, trivial, putting⟩
  calc (s.putting c).encard
    _ = (some '' s.putting c).encard := ((Option.some_injective _).encard_image _).symm
    _ ≤ ((fun i => (s.tasks i).putting? c) '' Set.univ).encard := Set.encard_le_encard among
    _ ≤ (Set.univ : Set ι).encard := Set.encard_image_le _ _
    _ = ENat.card ι := Set.encard_univ ι

/-- As many names are claimed as there are objects, or more. -/
theorem size_le_encard_claimed (s : Pool ι α) (c : Collection) :
    ((s.world.store c).size : ℕ∞) ≤ (s.claimed c).encard := by
  rw [← Store.card_contents, ← Set.encard_coe_eq_coe_finsetCard]
  exact Set.encard_le_encard Set.subset_union_left

/-- The names that are claimed are no more than the objects and the names about to be taken. -/
theorem encard_claimed_le (s : Pool ι α) (c : Collection) :
    (s.claimed c).encard ≤ (s.world.store c).size + (s.putting c).encard := by
  rw [← Store.card_contents, ← Set.encard_coe_eq_coe_finsetCard]
  exact Set.encard_union_le _ _

variable [DecidableEq ι] {s s' : Pool ι α} {es : List (Event ι)}

/-- No event changes how many objects a store may have. -/
theorem Step.capacity {e : Event ι} (step : Step s e s') :
    (s'.world.store c).capacity = (s.world.store c).capacity := by
  cases step with
  | tick clock => rw [World.sameStores_tick]
  | exchange calls => rw [world_advance calls, World.capacity_perform]

/-- Tasks that ask first go on to do so. -/
theorem Step.asksFirst {e : Event ι} (step : Step s e s') (asks : ∀ i, (s.tasks i).AsksFirst c)
    (i : ι) : (s'.tasks i).AsksFirst c := by
  cases step with
  | tick clock => exact asks i
  | @exchange j k next calls =>
    by_cases same : i = j
    · subst same
      rw [tasks_advance calls]
      exact ((calls ▸ asks i : (Task.call k next).AsksFirst c) _).1
    · rw [tasks_advance_of_ne s same]
      exact asks i

section Advance

variable {i : ι} {k : Call} {next : k.Answer → Task α} (calls : s.tasks i = .call k next)
include calls

/-- An object that was put in was about to be. -/
theorem mem_claimed_of_taken_advance {name : String}
    (taken : name ∈ ((s.advance i).world.store c).contents) : name ∈ s.claimed c := by
  obtain ⟨object, found⟩ := Option.isSome_iff_exists.1 (Store.mem_contents.1 taken)
  rw [world_advance calls] at found
  obtain same | ⟨op, rfl, store⟩ := s.world.store_perform c k
  · rw [same] at found
    exact mem_claimed_of_taken found
  · rw [store] at found
    have named := Store.name_of_find? found
    obtain old | ⟨rfl, -⟩ | ⟨-, old, present⟩ := Store.of_find?_perform found
    · exact mem_claimed_of_taken old
    · refine .inr ⟨i, ?_⟩
      rw [calls, Task.putting?_insert, named]
    · rw [named] at present
      exact mem_claimed_of_taken present

/-- What is about to be put in was told that there is room. -/
theorem mem_claimed_of_putting_advance (asks : (s.tasks i).AsksFirst c)
    (full : ¬((s.advance i).world.store c).size < ((s.advance i).world.store c).capacity)
    {name : String} (putting : ((s.advance i).tasks i).putting? c = some name) :
    name ∈ s.claimed c := by
  rw [calls] at asks
  rw [tasks_advance calls] at putting
  obtain ⟨rfl, answer⟩ := Exchange.mk.inj ((asks _).2 name putting)
  obtain room | present := Store.perform_checkRoom_eq_ok_iff.1 (eq_of_heq answer)
  · refine absurd ?_ full
    rw [world_advance calls, World.perform_checkRoom]
    exact room
  · exact .inl (Finmap.mem_keys.2 (Store.mem_contents.2 present))

end Advance

/-- **A name is newly claimed only while there is room.** -/
theorem Step.claimed_subset {e : Event ι} (step : Step s e s')
    (asks : ∀ i, (s.tasks i).AsksFirst c) :
    s'.claimed c ⊆ s.claimed c ∨ (s'.world.store c).size < (s'.world.store c).capacity := by
  cases step with
  | tick clock =>
    refine .inl ?_
    unfold claimed
    rw [World.sameStores_tick]
    exact subset_rfl
  | @exchange i k next calls =>
    refine or_iff_not_imp_right.2 fun full => ?_
    rintro name (taken | ⟨j, putting⟩)
    · exact mem_claimed_of_taken_advance calls (Finmap.mem_keys.1 taken)
    · by_cases same : j = i
      · subst same
        exact mem_claimed_of_putting_advance calls (asks j) full putting
      · rw [tasks_advance_of_ne s same] at putting
        exact .inr ⟨j, putting⟩

/-- **There are never many more names claimed than there is room for,** if only a few objects are
put in at a time. -/
theorem Run.encard_claimed_le (run : Run s es s') {k : ℕ} (asks : ∀ i, (s.tasks i).AsksFirst c)
    (begins : (s.claimed c).encard ≤ (s.world.store c).capacity + k)
    (crowd : ∀ before after s'', es = before ++ after → Run s before s'' →
      (s''.putting c).encard ≤ k + 1) :
    (s'.claimed c).encard ≤ (s.world.store c).capacity + k := by
  induction run with
  | nil s => exact begins
  | @cons s s₁ s' e es step run ih =>
    rw [← step.capacity] at begins ⊢
    refine ih (step.asksFirst asks) ?_ fun before after s'' split run' =>
      crowd (e :: before) after s'' (by rw [split]; rfl) (.cons step run')
    obtain fewer | room := step.claimed_subset asks
    · exact (Set.encard_le_encard fewer).trans begins
    · have few := crowd [e] es s₁ rfl (.cons step (.nil s₁))
      calc (s₁.claimed c).encard
        _ ≤ (s₁.world.store c).size + (s₁.putting c).encard := Pool.encard_claimed_le s₁ c
        _ ≤ (s₁.world.store c).size + (k + 1) := by gcongr
        _ = ((s₁.world.store c).size + 1 : ℕ) + k := by
          rw [Nat.cast_add, Nat.cast_one, add_assoc, add_comm 1 (k : ℕ∞)]
        _ ≤ (s₁.world.store c).capacity + k := by
          gcongr
          exact_mod_cast room

/-- **What a store holds at most.** Let any operations be done with a store that is not over its
capacity, at the same time. If at any moment there are no more than `k + 1` names under which
objects are about to be put in, after it was said that there is room, then the store never holds
more than `k` objects too many. With one such name at a time it keeps to its capacity. -/
theorem Run.size_le {ops : ι → Operation c} {s₀ s : Pool ι (Operation.Result c)}
    {es : List (Event ι)} (begins : ∀ i, s₀.tasks i = (ops i).task)
    (fits : (s₀.world.store c).size ≤ (s₀.world.store c).capacity) {k : ℕ}
    (crowd : ∀ before after s', es = before ++ after → Run s₀ before s' →
      (s'.putting c).encard ≤ k + 1) (run : Run s₀ es s) :
    (s.world.store c).size ≤ (s₀.world.store c).capacity + k := by
  have asks (i : ι) : (s₀.tasks i).AsksFirst c := begins i ▸ (ops i).asksFirst_task
  have none : s₀.putting c = ∅ := by
    refine Set.eq_empty_of_forall_notMem fun name ⟨i, putting⟩ => ?_
    rw [begins, Operation.putting?_task] at putting
    cases putting
  have claims : (s₀.claimed c).encard ≤ (s₀.world.store c).capacity + k := by
    calc (s₀.claimed c).encard
      _ ≤ (s₀.world.store c).size + (s₀.putting c).encard := Pool.encard_claimed_le s₀ c
      _ = (s₀.world.store c).size := by rw [none, Set.encard_empty, add_zero]
      _ ≤ (s₀.world.store c).capacity := by exact_mod_cast fits
      _ ≤ (s₀.world.store c).capacity + k := le_self_add
  exact_mod_cast (s.size_le_encard_claimed c).trans (run.encard_claimed_le asks claims crowd)

/-- Two users that are to be created. -/
def racers : Fin 2 → Operation .users :=
  ![.create (userOf "alice"), .create (userOf "bob")]

/-- They are to be created in a store with a single place, which is free. -/
def race : Pool (Fin 2) (Operation.Result .users) where
  world := ⟨.epoch, { capacity := 9 }, { capacity := 1 }, []⟩
  tasks i := (racers i).task

/-- For both it is asked whether there is room, and then both are put in. -/
def raced : List (Event (Fin 2)) := [
  .exchange 0 ⟨.now, .epoch⟩,
  .exchange 1 ⟨.now, .epoch⟩,
  .exchange 0 ⟨.store .users (.checkRoom "alice"), .ok ()⟩,
  .exchange 1 ⟨.store .users (.checkRoom "bob"), .ok ()⟩,
  .exchange 0 ⟨.store .users (.insert (userOf "alice")), .ok (userOf "alice")⟩,
  .exchange 1 ⟨.store .users (.insert (userOf "bob")), .ok (userOf "bob")⟩]

/-- Both are put in, where one has room. -/
theorem exists_run_raced : ∃ s, Run race raced s ∧ (s.world.store .users).size = 2 :=
  ⟨_, .cons (.exchange rfl) (.cons (.exchange rfl) (.cons (.exchange rfl) (.cons (.exchange rfl)
    (.cons (.exchange rfl) (.cons (.exchange rfl) (.nil _)))))), rfl⟩

/-- The hypotheses of `size_le` are satisfiable: of two creations at the same time at most one is
too many. -/
theorem Run.size_le_race :
    ∃ s, Run race raced s ∧
      (s.world.store .users).size ≤ (race.world.store .users).capacity + 1 := by
  obtain ⟨s, run, -⟩ := exists_run_raced
  refine ⟨s, run, run.size_le (fun _ => rfl) (Nat.zero_le _) fun before after s' split run' => ?_⟩
  exact (s'.encard_putting_le .users).trans_eq (by simp [one_add_one_eq_two])

/-- And one is too many: two users come to be in a store that has a single place. -/
theorem Run.overfilled :
    ∃ s, Run race raced s ∧ (race.world.store .users).size = 0 ∧
      (race.world.store .users).capacity = 1 ∧ (s.world.store .users).size = 2 := by
  obtain ⟨s, run, size⟩ := exists_run_raced
  exact ⟨s, run, rfl, rfl, size⟩

/-! ### Any number of creations at a free place -/

section Filling

variable {s : Pool ι (Operation.Result c)} {objects : ι → c.Object}

/-- As long as there is room, a creation is told so. -/
theorem exists_run_asking {i : ι} (begins : s.tasks i = (Operation.create (objects i)).task)
    (named : Stored.name (objects i) ≠ "")
    (room : (s.world.store c).size < (s.world.store c).capacity) :
    ∃ es s', Run s es s' ∧ s'.world = s.world ∧
      s'.tasks i = Operation.inserting (Stored.stamp (objects i) s.world.clock) ∧
      ∀ j, j ≠ i → s'.tasks j = s.tasks j := by
  obtain ⟨next, is, -, allowed⟩ := Operation.exists_task_create named
  have calls := begins.trans is
  have calls' : (s.advance i).tasks i = .call
      (.store c (.checkRoom (Stored.name (Stored.stamp (objects i) s.world.clock))))
      (next s.world.clock) := tasks_advance calls
  have world : (s.advance i).world = s.world := world_advance calls
  have told (name : String) :
      s.world.perform (.store c (.checkRoom name)) = (.ok (), s.world) := by
    rw [World.perform_checkRoom, Store.perform_checkRoom_eq_ok_iff.2 (.inl room)]
  refine ⟨_, _, .cons (.exchange calls) (.cons (.exchange calls') (.nil _)), ?_, ?_, ?_⟩
  · rw [world_advance calls', world, told]
  · rw [tasks_advance calls', world, told]
    exact allowed _
  · intro j other
    rw [tasks_advance_of_ne _ other, tasks_advance_of_ne _ other]

/-- All are told so before any object is put in. -/
theorem exists_run_askingAll {is : List ι} (nodup : is.Nodup)
    (begins : ∀ i ∈ is, s.tasks i = (Operation.create (objects i)).task)
    (named : ∀ i, Stored.name (objects i) ≠ "")
    (room : (s.world.store c).size < (s.world.store c).capacity) :
    ∃ es s', Run s es s' ∧ s'.world = s.world ∧
      (∀ i ∈ is, s'.tasks i = Operation.inserting (Stored.stamp (objects i) s.world.clock)) ∧
      ∀ j, j ∉ is → s'.tasks j = s.tasks j := by
  induction is generalizing s with
  | nil => exact ⟨[], s, .nil s, rfl, nofun, fun _ _ => rfl⟩
  | cons i is ih =>
    obtain ⟨fresh, nodup⟩ := List.nodup_cons.1 nodup
    obtain ⟨first, s₁, run₁, world₁, asked, others₁⟩ :=
      exists_run_asking (begins i List.mem_cons_self) (named i) room
    obtain ⟨later, s₂, run₂, world₂, all, others₂⟩ := ih nodup (fun j mem => by
      rw [others₁ j (ne_of_mem_of_not_mem mem fresh)]
      exact begins j (List.mem_cons_of_mem _ mem)) (by rwa [world₁]) (s := s₁)
    refine ⟨_, s₂, run₁.append run₂, world₂.trans world₁, fun j mem => ?_, fun j absent => ?_⟩
    · obtain rfl | mem := List.mem_cons.1 mem
      · rw [others₂ j fresh, asked]
      · rw [all j mem, world₁]
    · obtain ⟨other, absent⟩ := not_or.1 (mt List.mem_cons.2 absent)
      rw [others₂ j absent, others₁ j other]

/-- Objects that are about to be put in under different names that are free all come to be
stored. -/
theorem exists_run_inserting (objects : ι → c.Object) {is : List ι} (nodup : is.Nodup)
    (different : Function.Injective fun i => Stored.name (objects i))
    (tasks : ∀ i ∈ is, s.tasks i = Operation.inserting (objects i))
    (free : ∀ i ∈ is, (s.world.store c).find? (Stored.name (objects i)) = none) :
    ∃ es s', Run s es s' ∧
      (s'.world.store c).size = (s.world.store c).size + is.length := by
  induction is generalizing s with
  | nil => exact ⟨[], s, .nil s, rfl⟩
  | cons i is ih =>
    obtain ⟨fresh, nodup⟩ := List.nodup_cons.1 nodup
    have calls := tasks i List.mem_cons_self
    have free₁ := free i List.mem_cons_self
    have store : ((s.advance i).world.store c) = (s.world.store c).put (objects i) := by
      rw [world_advance calls, World.perform, World.store_withStore,
        Store.perform_insert_of_free free₁]
    obtain ⟨later, s', run, size⟩ := ih nodup (s := s.advance i)
      (fun j mem => by
        rw [tasks_advance_of_ne s (ne_of_mem_of_not_mem mem fresh)]
        exact tasks j (List.mem_cons_of_mem _ mem))
      (fun j mem => by
        rw [store, Store.find?_put, if_neg fun same =>
          ne_of_mem_of_not_mem mem fresh (different same)]
        exact free j (List.mem_cons_of_mem _ mem))
    refine ⟨_, s', .cons (.exchange calls) run, ?_⟩
    rw [size, store, Store.size_put free₁, List.length_cons, add_assoc, add_comm 1]

end Filling

/-- **A single free place is enough for any number of objects,** if they are created at the same
time: all are told that there is room before the first is put in. So the bound of `size_le` cannot
be improved. -/
theorem exists_run_filling (w : World)
    (room : (w.store c).size < (w.store c).capacity) {n : ℕ} (objects : Fin n → c.Object)
    (named : ∀ i, Stored.name (objects i) ≠ "")
    (different : Function.Injective fun i => Stored.name (objects i))
    (free : ∀ i, (w.store c).find? (Stored.name (objects i)) = none) :
    ∃ es s, Run ⟨w, fun i => (Operation.create (objects i)).task⟩ es s ∧
      (s.world.store c).size = (w.store c).size + n := by
  obtain ⟨first, s₁, run₁, world, tasks, -⟩ := exists_run_askingAll
    (s := ⟨w, fun i => (Operation.create (objects i)).task⟩) (List.nodup_finRange n)
    (fun i _ => rfl) named room
  obtain ⟨later, s₂, run₂, size⟩ := exists_run_inserting
    (fun i => Stored.stamp (objects i) w.clock) (s := s₁) (List.nodup_finRange n)
    (by simpa only [Stored.name_stamp] using different) tasks
    (fun i _ => by rw [world, Stored.name_stamp]; exact free i)
  refine ⟨_, s₂, run₁.append run₂, ?_⟩
  rw [size, world, List.length_finRange]

end Pool
end TokenAuthority
