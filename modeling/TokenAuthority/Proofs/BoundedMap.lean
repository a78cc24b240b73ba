/-
# A store is a bounded map

What is done with a store, one operation after the other, has the results and leaves the objects
that it would with a finite map from names to objects (`Backend.refines_map`):

| operation | result | map |
| --- | --- | --- |
| create, without a name | `emptyName` | |
| create, with a name that is taken | `alreadyExists` | |
| create, when the map is full | `capacityExceeded` | |
| create | the object, with the time filled in | the object is put in |
| get | the object of the name, if there is one | |
| update, with a name that is not taken | `notFound` | |
| update | the object | the object is put in the place of the other |
| delete, with a name that is not taken | `notFound` | |
| delete | the object that was there | it is taken out |

A name that is taken is told before that there is no room.
-/

import Mathlib.Data.Finmap
import TokenAuthority.Proofs.Entries
import TokenAuthority.Proofs.Effects

namespace TokenAuthority

open Time (Instant)

/-! ### The objects of a store as a map -/

/-- A finite map from names to objects. -/
abbrev Contents (α : Type) := Finmap fun _ : String => α

/-- Putting an object in adds its name to those that are taken. -/
theorem Contents.keys_insert {α : Type} (m : Contents α) (name : String) (object : α) :
    (m.insert name object).keys = insert name m.keys := by
  ext other
  rw [Finmap.mem_keys, Finmap.mem_insert, Finset.mem_insert, Finmap.mem_keys]

/-- A lookup in the entries as pairs is a lookup in the entries. -/
theorem KeyedMap.dlookup_map {β : Type} (name : String) (l : List (String × β)) :
    (l.map fun e => (⟨e.1, e.2⟩ : (_ : String) × β)).dlookup name = l.lookup name := by
  induction l with
  | nil => rfl
  | cons e rest ih =>
    rw [List.map_cons, KeyedMap.lookup_cons]
    split
    · rename_i same
      subst same
      exact List.dlookup_cons_eq _ _ _
    · rename_i other
      rw [List.dlookup_cons_ne _ _ other, ih]

namespace Store

variable {α : Type} [Stored α]

/-- The objects of a store under their names. -/
def contents (s : Store α) : Contents α :=
  (s.objects.entries.map fun e => ⟨e.1, e.2⟩).toFinmap

/-- The map of a store finds what the store finds. -/
@[simp] theorem lookup_contents (s : Store α) (name : String) :
    s.contents.lookup name = s.find? name := by
  rw [contents, Finmap.dlookup_list_toFinmap, KeyedMap.dlookup_map]
  rfl

/-- A name is in the map of a store exactly if the store has an object of that name. -/
theorem mem_contents {s : Store α} {name : String} :
    name ∈ s.contents ↔ (s.find? name).isSome = true := by
  rw [← Finmap.lookup_isSome, lookup_contents]

/-- The name of an object that is found is in the map. -/
theorem mem_contents_of_find? {s : Store α} {name : String} {object : α}
    (h : s.find? name = some object) : name ∈ s.contents := by
  rw [mem_contents, h]
  rfl

/-- A name of which nothing is found is not in the map. -/
theorem notMem_contents {s : Store α} {name : String} (h : s.find? name = none) :
    name ∉ s.contents := by
  rw [mem_contents, h]
  exact Bool.false_ne_true

/-- Putting an object into a store puts it into the map. -/
theorem contents_put (s : Store α) (object : α) :
    (s.put object).contents = s.contents.insert (Stored.name object) object := by
  refine Finmap.ext_lookup fun name => ?_
  rw [lookup_contents, find?_put]
  split
  · rename_i same
    rw [same, Finmap.lookup_insert]
  · rename_i other
    rw [Finmap.lookup_insert_of_ne _ other, lookup_contents]

/-- Taking an object out of a store takes it out of the map. -/
theorem contents_drop (s : Store α) (name : String) :
    (s.drop name).contents = s.contents.erase name := by
  refine Finmap.ext_lookup fun other => ?_
  rw [lookup_contents, find?_drop]
  split
  · rename_i same
    rw [same, Finmap.lookup_erase]
  · rename_i differs
    rw [Finmap.lookup_erase_ne differs, lookup_contents]

/-- The map of a store has as many names as the store has objects. -/
theorem card_contents (s : Store α) : s.contents.keys.card = s.size := by
  have keys : s.contents.keys = (s.objects.entries.map Prod.fst).toFinset := by
    ext name
    rw [Finmap.mem_keys, mem_contents, List.mem_toFinset]
    exact KeyedMap.isSome_lookup
  rw [keys, List.toFinset_card_of_nodup s.objects.nodup_keys, List.length_map]
  rfl

/-- There is room for an object if the store is not full, or its name is taken. -/
theorem perform_checkRoom_eq_ok_iff {s : Store α} {name : String} :
    (s.perform (.checkRoom name)).1 = .ok () ↔
      s.size < s.capacity ∨ (s.find? name).isSome = true := by
  dsimp only [perform]
  split
  · rename_i refused
    obtain ⟨full, free⟩ := Bool.and_eq_true_iff.1 refused
    refine iff_of_false nofun (not_or.2 ⟨Nat.not_lt.2 (of_decide_eq_true full), ?_⟩)
    simpa using free
  · rename_i room
    refine iff_of_true rfl ?_
    rw [Bool.and_eq_true, decide_eq_true_eq, not_and_or, Nat.not_le] at room
    exact room.imp_right fun present => by simpa [Option.isSome_iff_ne_none] using present

/-- There is no room for a new name in a full store. -/
theorem perform_checkRoom_of_full {s : Store α} {name : String} (full : s.capacity ≤ s.size)
    (free : s.find? name = none) :
    (s.perform (.checkRoom name)).1 =
      .error (.capacityExceeded (Stored.resource α) s.capacity) := by
  simp [perform, full, free]

end Store

/-- Asking for room leaves the world. -/
theorem World.perform_checkRoom (w : World) (c : Collection) (name : String) :
    w.perform (.store c (.checkRoom name)) = (((w.store c).perform (.checkRoom name)).1, w) := by
  have same : w.withStore c ((w.store c).perform (.checkRoom name)).2 = w := by
    rw [Store.perform_checkRoom_store, World.withStore_store]
  exact congrArg (Prod.mk _) same

/-! ### Operations -/

/-- What can be done with the objects of a collection. -/
inductive Operation (c : Collection) where
  | create (object : c.Object)
  | get (name : String)
  | update (object : c.Object)
  | delete (name : String)

namespace Operation

variable {c : Collection}

/-- What an operation comes to: an object, or none, or an error. -/
abbrev Result (c : Collection) := Except StoreError (Option c.Object)

/-- The operation as a program. -/
def task : Operation c → Task (Result c)
  | create object => return (← Backend.create c object).map some
  | get name => return .ok (← Backend.find c name)
  | update object => return (← Backend.replace c object).map some
  | delete name => return (← Backend.remove c name).map some

/-- The name of the object that the operation is about. -/
def name : Operation c → String
  | create object | update object => Stored.name object
  | get name | delete name => name

/-! #### On a map -/

/-- The object as it is stored: the time is filled in if it is missing. -/
def filledIn (object : c.Object) (now : Instant) : c.Object :=
  match (Stored.metadata object).created with
  | some _ => object
  | none => Stored.withMetadata object { Stored.metadata object with created := some now }

/-- What the operation comes to at some time for a map of limited size, and the map after it. -/
def onMap (capacity : Nat) (now : Instant) (m : Contents c.Object) :
    Operation c → Result c × Contents c.Object
  | create object =>
    let name := Stored.name object
    if name = "" then (.error .emptyName, m)
    else if name ∈ m then (.error (.alreadyExists (Stored.resource c.Object) name), m)
    else if capacity ≤ m.keys.card then
      (.error (.capacityExceeded (Stored.resource c.Object) capacity), m)
    else (.ok (some (filledIn object now)), m.insert name (filledIn object now))
  | get name => (.ok (m.lookup name), m)
  | update object =>
    let name := Stored.name object
    if name ∈ m then (.ok (some object), m.insert name object)
    else (.error (.notFound (Stored.resource c.Object) name), m)
  | delete name =>
    match m.lookup name with
    | some object => (.ok (some object), m.erase name)
    | none => (.error (.notFound (Stored.resource c.Object) name), m)

/-- An object with its own metadata is the same object. -/
theorem withMetadata_metadata (object : c.Object) :
    Stored.withMetadata object (Stored.metadata object) = object := by
  cases c <;> rfl

/-- The time of creation is filled in as the program does it. -/
theorem filledIn_eq_stamp (object : c.Object) (now : Instant) :
    filledIn object now = Stored.stamp object now := by
  unfold filledIn Stored.stamp Resource.Metadata.stamp
  cases created : (Stored.metadata object).created with
  | none => rfl
  | some instant =>
    dsimp only [Option.getD_some]
    rw [← created, withMetadata_metadata]

/-- Filling in the time of creation leaves the name. -/
theorem name_filledIn (object : c.Object) (now : Instant) :
    Stored.name (filledIn object now) = Stored.name object := by
  rw [filledIn_eq_stamp, Stored.name_stamp]

/-- What an operation that comes to some result may do to a map of limited size. -/
inductive Change (capacity : Nat) (op : Operation c) (m : Contents c.Object) :
    Result c → Contents c.Object → Prop where
  | nothing (result : Result c) : Change capacity op m result m
  /-- An object is put in, in the place of another or where there is room. -/
  | put {object : c.Object} (named : Stored.name object = op.name)
      (fits : op.name ∈ m ∨ m.keys.card < capacity) :
      Change capacity op m (.ok (some object)) (m.insert op.name object)
  /-- The object of a name is taken out. -/
  | drop {name : String} {object : c.Object} (deletes : op = .delete name)
      (found : m.lookup name = some object) :
      Change capacity op m (.ok (some object)) (m.erase name)

/-- What an operation does to a map is one of the changes that it may make. -/
theorem change_onMap (op : Operation c) (capacity : Nat) (now : Instant) (m : Contents c.Object) :
    op.Change capacity m (op.onMap capacity now m).1 (op.onMap capacity now m).2 := by
  cases op with
  | get name => exact .nothing _
  | create object =>
    unfold onMap
    dsimp only
    split
    · exact .nothing _
    · split
      · exact .nothing _
      · split
        · exact .nothing _
        · rename_i room
          exact .put (name_filledIn object now) (.inr (Nat.not_le.1 room))
  | update object =>
    unfold onMap
    dsimp only
    split
    · rename_i taken
      exact .put rfl (.inl taken)
    · exact .nothing _
  | delete name =>
    unfold onMap
    dsimp only
    split
    · rename_i object found
      exact .drop rfl found
    · exact .nothing _

/-- A map that is no larger than allowed and has each object under its name. -/
structure WellFormed (capacity : Nat) (m : Contents c.Object) : Prop where
  card_le : m.keys.card ≤ capacity
  named : ∀ name object, m.lookup name = some object → Stored.name object = name

/-- The empty map is well-formed. -/
theorem wellFormed_empty (capacity : Nat) : WellFormed capacity (∅ : Contents c.Object) where
  card_le := by simp
  named name object found := by simp at found

/-- What an operation that comes to some result leaves as it was. -/
structure Keeps (op : Operation c) (result : Result c) (before after : Contents c.Object) :
    Prop where
  /-- An error changes nothing. -/
  of_error : ∀ e, result = .error e → after = before
  /-- The other names keep their objects. -/
  others : ∀ name, name ≠ op.name → after.lookup name = before.lookup name
  /-- A name stays taken unless it is deleted, and then its object is returned. -/
  lasting : ∀ name, name ∈ before → name ∉ after →
    op = .delete name ∧ result = .ok (before.lookup name)

section Preservation

variable {capacity : Nat} {op : Operation c} {m m' : Contents c.Object} {result : Result c}

/-- An object that is put in where there is room leaves the map within its size. -/
theorem card_keys_insert_le {name : String} (object : c.Object)
    (fits : name ∈ m ∨ m.keys.card < capacity) (small : m.keys.card ≤ capacity) :
    (m.insert name object).keys.card ≤ capacity := by
  rw [Contents.keys_insert]
  obtain taken | room := fits
  · rwa [Finset.insert_eq_of_mem (Finmap.mem_keys.2 taken)]
  · exact (Finset.card_insert_le _ _).trans room

/-- Objects stay under their names, and no more of them come in than there is room for. -/
theorem WellFormed.change (h : WellFormed capacity m) (change : op.Change capacity m result m') :
    WellFormed capacity m' := by
  cases change with
  | nothing => exact h
  | @put object named fits =>
    refine ⟨card_keys_insert_le object fits h.card_le, fun name other found => ?_⟩
    by_cases same : name = op.name
    · rw [same, Finmap.lookup_insert] at found
      rw [← Option.some.inj found, named, same]
    · rw [Finmap.lookup_insert_of_ne _ same] at found
      exact h.named name other found
  | @drop name object deletes found =>
    refine ⟨?_, fun other object found => ?_⟩
    · rw [Finmap.keys_erase]
      exact Finset.card_erase_le.trans h.card_le
    · by_cases same : other = name
      · rw [same, Finmap.lookup_erase] at found
        cases found
      · rw [Finmap.lookup_erase_ne same] at found
        exact h.named other object found

/-- A change leaves everything that an operation is to leave. -/
theorem Change.keeps (change : op.Change capacity m result m') : op.Keeps result m m' := by
  cases change with
  | nothing result =>
    exact ⟨fun _ _ => rfl, fun _ _ => rfl, fun name before after => absurd before after⟩
  | put named fits =>
    refine ⟨nofun, fun name other => Finmap.lookup_insert_of_ne _ other, ?_⟩
    exact fun name before after => absurd (Finmap.mem_insert.2 (.inr before)) after
  | @drop name object deletes found =>
    subst deletes
    refine ⟨nofun, fun other differs => Finmap.lookup_erase_ne differs, ?_⟩
    intro gone before after
    obtain rfl : gone = name := by
      by_contra differs
      exact after (Finmap.mem_erase.2 ⟨differs, before⟩)
    exact ⟨rfl, congrArg Except.ok found.symm⟩

end Preservation

/-! #### On a store -/

/-- What is left of a creation that was told that there is room. -/
def inserting (object : c.Object) : Task (Result c) :=
  .call (.store c (.insert object)) fun answer => .done (answer.map some)

/-- An object without a name is refused at once. -/
theorem task_create_of_unnamed {object : c.Object} (unnamed : Stored.name object = "") :
    (create object).task = .done (.error .emptyName) := by
  unfold task Backend.create
  dsimp only
  rw [if_pos unnamed]
  rfl

/-- The creation of an object with a name asks whether there is room, and puts the object in if
there is. -/
theorem exists_task_create {object : c.Object} (named : Stored.name object ≠ "") :
    ∃ next : Instant → Except StoreError Unit → Task (Result c),
      (create object).task = .call .now (fun now =>
        .call (.store c (.checkRoom (Stored.name (Stored.stamp object now)))) (next now)) ∧
      (∀ now e, next now (.error e) = .done (.error e)) ∧
      ∀ now, next now (.ok ()) = inserting (Stored.stamp object now) := by
  unfold task Backend.create
  dsimp only
  rw [if_neg named]
  exact ⟨_, rfl, fun _ _ => rfl, fun _ => rfl⟩

/-- An object with a name is put in unless there is no room, which is asked first. -/
theorem run_create {object : c.Object} (named : Stored.name object ≠ "") (w : World) :
    (∀ e, ((w.store c).perform (.checkRoom (Stored.name object))).1 = .error e →
      (create object).task.run w = (some (.error e), w)) ∧
    (((w.store c).perform (.checkRoom (Stored.name object))).1 = .ok () →
      (create object).task.run w =
        (some (((w.store c).perform (.insert (Stored.stamp object w.clock))).1.map some),
          w.withStore c ((w.store c).perform (.insert (Stored.stamp object w.clock))).2)) := by
  obtain ⟨next, is, refused, allowed⟩ := exists_task_create named
  have runs : (create object).task.run w =
      (next w.clock ((w.store c).perform (.checkRoom (Stored.name object))).1).run w := by
    have asked := w.perform_checkRoom c (Stored.name (Stored.stamp object w.clock))
    calc (create object).task.run w
      _ = (next w.clock (w.perform (.store c (.checkRoom (Stored.name (Stored.stamp object
            w.clock))))).1).run (w.perform (.store c (.checkRoom (Stored.name (Stored.stamp object
            w.clock))))).2 := by
        rw [is]
        rfl
      _ = _ := by rw [asked, Stored.name_stamp]
  constructor
  · intro e full
    rw [runs, full, refused]
    rfl
  · intro room
    rw [runs, room, allowed]
    rfl

/-- Whether the operation does to the store of a world what it does to the map of its objects. -/
def Agrees (op : Operation c) (w : World) : Prop :=
  ∃ s : Store c.Object, s.capacity = (w.store c).capacity ∧
    op.task.run w =
      (some (op.onMap (w.store c).capacity w.clock (w.store c).contents).1, w.withStore c s) ∧
    s.contents = (op.onMap (w.store c).capacity w.clock (w.store c).contents).2

/-- Creating an object agrees with what it does to a map. -/
theorem agrees_create (object : c.Object) (w : World) : (create object).Agrees w := by
  unfold Agrees
  generalize is : w.store c = s
  have same : w.withStore c s = w := by rw [← is, w.withStore_store]
  unfold onMap
  dsimp only
  by_cases named : Stored.name object = ""
  · rw [task_create_of_unnamed named, if_pos named]
    refine ⟨s, rfl, ?_, rfl⟩
    rw [same]
    rfl
  · obtain ⟨whenFull, whenRoom⟩ := run_create named w
    rw [is] at whenFull whenRoom
    rw [if_neg named]
    cases found : s.find? (Stored.name object) with
    | some old =>
      have taken : s.find? (Stored.name (Stored.stamp object w.clock)) = some old := by
        rw [Stored.name_stamp, found]
      have ran := whenRoom (Store.perform_checkRoom_eq_ok_iff.2 (.inr (by rw [found]; rfl)))
      rw [Store.perform_insert_of_taken taken, Stored.name_stamp] at ran
      rw [ran, if_pos (Store.mem_contents_of_find? found)]
      exact ⟨s, rfl, rfl, rfl⟩
    | none =>
      have free : s.find? (Stored.name (Stored.stamp object w.clock)) = none := by
        rw [Stored.name_stamp, found]
      rw [if_neg (Store.notMem_contents found), s.card_contents]
      by_cases full : s.capacity ≤ s.size
      · rw [whenFull _ (Store.perform_checkRoom_of_full full found), if_pos full]
        refine ⟨s, rfl, ?_, rfl⟩
        rw [same]
      · have ran := whenRoom (Store.perform_checkRoom_eq_ok_iff.2 (.inl (Nat.not_le.1 full)))
        rw [Store.perform_insert_of_free free] at ran
        rw [ran, if_neg full, filledIn_eq_stamp]
        refine ⟨s.put (Stored.stamp object w.clock), rfl, rfl, ?_⟩
        rw [s.contents_put, Stored.name_stamp]

/-- Looking an object up agrees with what it does to a map. -/
theorem agrees_get (name : String) (w : World) : (get name : Operation c).Agrees w := by
  refine ⟨w.store c, rfl, ?_, rfl⟩
  unfold onMap
  dsimp only
  rw [Store.lookup_contents]
  rfl

/-- Updating an object agrees with what it does to a map. -/
theorem agrees_update (object : c.Object) (w : World) : (update object).Agrees w := by
  have ran : (update object).task.run w =
      (some (((w.store c).perform (.replace object)).1.map some),
        w.withStore c ((w.store c).perform (.replace object)).2) := rfl
  unfold Agrees onMap
  dsimp only
  rw [ran]
  cases found : (w.store c).find? (Stored.name object) with
  | some old =>
    rw [Store.perform_replace_of_found found, if_pos (Store.mem_contents_of_find? found)]
    exact ⟨(w.store c).put object, rfl, rfl, (w.store c).contents_put object⟩
  | none =>
    rw [Store.perform_replace_of_missing found, if_neg (Store.notMem_contents found)]
    exact ⟨w.store c, rfl, rfl, rfl⟩

/-- Deleting an object agrees with what it does to a map. -/
theorem agrees_delete (name : String) (w : World) : (delete name : Operation c).Agrees w := by
  have ran : (delete name : Operation c).task.run w =
      (some (((w.store c).perform (.remove name)).1.map some),
        w.withStore c ((w.store c).perform (.remove name)).2) := rfl
  unfold Agrees onMap
  dsimp only
  rw [ran, (w.store c).lookup_contents]
  cases found : (w.store c).find? name with
  | some old =>
    rw [Store.perform_remove_of_found found]
    exact ⟨(w.store c).drop name, rfl, rfl, (w.store c).contents_drop name⟩
  | none =>
    rw [Store.perform_remove_of_missing found]
    exact ⟨w.store c, rfl, rfl, rfl⟩

/-- **An operation does to a store what it does to a map.** -/
theorem agrees (op : Operation c) (w : World) : op.Agrees w := by
  cases op with
  | create object => exact agrees_create object w
  | get name => exact agrees_get name w
  | update object => exact agrees_update object w
  | delete name => exact agrees_delete name w

/-! ### One operation after the other -/

/-- What operations come to, each at its time, and the world after them. -/
def inTurn (w : World) : List (Instant × Operation c) → List (Option (Result c)) × World
  | [] => ([], w)
  | (now, op) :: later =>
    let done := op.task.run { w with clock := now }
    let rest := inTurn done.2 later
    (done.1 :: rest.1, rest.2)

/-- What operations come to for a map of limited size, and the map after them. -/
def onMapInTurn (capacity : Nat) (m : Contents c.Object) :
    List (Instant × Operation c) → List (Result c) × Contents c.Object
  | [] => ([], m)
  | (now, op) :: later =>
    let done := op.onMap capacity now m
    let rest := onMapInTurn capacity done.2 later
    (done.1 :: rest.1, rest.2)

/-- Operations do to a store what they do to a map, and nothing to another store. -/
theorem inTurn_refines (w : World) (ops : List (Instant × Operation c)) :
    let done := inTurn w ops
    let spec := onMapInTurn (w.store c).capacity (w.store c).contents ops
    (done.2.store c).capacity = (w.store c).capacity ∧ (∀ d, d ≠ c → done.2.store d = w.store d) ∧
      done.1 = spec.1.map some ∧ (done.2.store c).contents = spec.2 := by
  induction ops generalizing w with
  | nil => exact ⟨rfl, fun _ _ => rfl, rfl, rfl⟩
  | cons first later ih =>
    obtain ⟨now, op⟩ := first
    obtain ⟨s, capacity, ran, contents⟩ := op.agrees { w with clock := now }
    rw [w.sameStores_tick now c] at capacity ran contents
    obtain ⟨capacities, others, results, final⟩ := ih (World.withStore { w with clock := now } c s)
    rw [World.store_withStore, capacity] at capacities
    rw [World.store_withStore, capacity, contents] at results final
    unfold inTurn onMapInTurn
    rw [ran]
    refine ⟨capacities, fun d other => ?_, congrArg _ results, final⟩
    rw [others d other, World.store_withStore_of_ne _ _ other, w.sameStores_tick now d]

/-- A map stays well-formed through any number of operations. -/
theorem WellFormed.onMapInTurn {capacity : Nat} {m : Contents c.Object}
    (h : WellFormed capacity m) (ops : List (Instant × Operation c)) :
    WellFormed capacity (onMapInTurn capacity m ops).2 := by
  induction ops generalizing m with
  | nil => exact h
  | cons first later ih => exact ih (h.change (first.2.change_onMap capacity first.1 m))

end Operation

/-- **A store is a bounded map.** Let any operations be done with a store that is empty at the
beginning, each at its time. What they come to is what they come to for a map that is empty at the
beginning, and the objects that are stored are those of the map; so they are under their names, and
no more than there is room for. Another store is left alone. And whatever is done next leaves
everything as it was if it fails, and the other names in any case, and a name is free again only
when it was deleted. -/
theorem Backend.refines_map {c : Collection} (w : World) (capacity : Nat)
    (ops : List (Instant × Operation c)) :
    let done := Operation.inTurn (w.withStore c { capacity }) ops
    let stored := (done.2.store c).contents
    (done.1 = (Operation.onMapInTurn capacity ∅ ops).1.map some ∧
      stored = (Operation.onMapInTurn capacity ∅ ops).2) ∧
    Operation.WellFormed capacity stored ∧
    (∀ d, d ≠ c → done.2.store d = w.store d) ∧
    ∀ (now : Instant) (op : Operation c),
      let next := op.task.run { done.2 with clock := now }
      ∃ result, next.1 = some result ∧ op.Keeps result stored (next.2.store c).contents := by
  have empty : (Store.contents { capacity } : Contents c.Object) = ∅ := rfl
  obtain ⟨capacities, others, results, final⟩ :=
    Operation.inTurn_refines (w.withStore c { capacity }) ops
  rw [World.store_withStore] at capacities results final
  rw [empty] at results final
  refine ⟨⟨results, final⟩, ?_, fun d other => ?_, fun now op => ?_⟩
  · rw [final]
    exact (Operation.wellFormed_empty capacity).onMapInTurn ops
  · rw [others d other, World.store_withStore_of_ne _ _ other]
  · obtain ⟨s, -, ran, contents⟩ := op.agrees
      { (Operation.inTurn (w.withStore c { capacity }) ops).2 with clock := now }
    dsimp only
    rw [ran, World.store_withStore, contents, World.sameStores_tick]
    exact ⟨_, rfl, (op.change_onMap ..).keeps⟩

/-- A user of a name. -/
def userOf (name : String) : Resource.User where
  metadata := { name, created := some .epoch }

example : (Operation.onMapInTurn (c := .users) 1 ∅
      [(.epoch, .create (userOf "alice")), (.epoch, .create (userOf "alice")),
        (.epoch, .create (userOf "bob"))]).1 =
    [.ok (some (userOf "alice")), .error (.alreadyExists "users" "alice"),
      .error (.capacityExceeded "users" 1)] := by
  rfl

end TokenAuthority
