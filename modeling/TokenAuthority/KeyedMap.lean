/-
# Finite maps from texts

A map is the list of its entries in increasing order of their keys, so that two maps with the same
entries are the same map and walking a map needs no further rule.
-/

namespace TokenAuthority

/-- A finite map from texts. -/
structure KeyedMap (β : Type) where
  /-- The entries, in increasing order of their keys. -/
  entries : List (String × β)
  increasing : entries.Pairwise fun a b => a.1 < b.1

namespace KeyedMap

variable {β : Type}

/-- Maps with the same entries are the same. -/
theorem ext {a b : KeyedMap β} (h : a.entries = b.entries) : a = b := by
  cases a; cases b; cases h; rfl

instance [DecidableEq β] : DecidableEq (KeyedMap β) := fun a b =>
  if h : a.entries = b.entries then isTrue (ext h)
  else isFalse fun e => h (congrArg entries e)

instance [Repr β] : Repr (KeyedMap β) := ⟨fun m => reprPrec m.entries⟩

/-- The map without entries. -/
def empty : KeyedMap β := ⟨[], List.Pairwise.nil⟩

instance : Inhabited (KeyedMap β) := ⟨empty⟩

/-- Puts an entry where the order wants it, in the place of one with the same key. -/
def insertEntry (key : String) (value : β) : List (String × β) → List (String × β)
  | [] => [(key, value)]
  | e :: rest =>
    if key < e.1 then (key, value) :: e :: rest
    else if key = e.1 then (key, value) :: rest
    else e :: insertEntry key value rest

/-- An entry is the one that was put in, or was there before. -/
theorem mem_insertEntry {key : String} {value : β} {l : List (String × β)} {e : String × β}
    (h : e ∈ insertEntry key value l) : e = (key, value) ∨ e ∈ l := by
  induction l with
  | nil => simpa [insertEntry] using h
  | cons a rest ih =>
    unfold insertEntry at h
    split at h
    · simpa using h
    · split at h
      · rcases List.mem_cons.1 h with h | h
        · exact .inl h
        · exact .inr (List.mem_cons_of_mem _ h)
      · rcases List.mem_cons.1 h with h | h
        · exact .inr (h ▸ List.mem_cons_self)
        · exact (ih h).imp id (List.mem_cons_of_mem _)

/-- Entries stay in order when one is put in. -/
theorem increasing_insertEntry (key : String) (value : β) {l : List (String × β)}
    (h : l.Pairwise fun a b => a.1 < b.1) :
    (insertEntry key value l).Pairwise fun a b => a.1 < b.1 := by
  induction l with
  | nil => simp [insertEntry]
  | cons a rest ih =>
    have ⟨first, others⟩ := List.pairwise_cons.1 h
    unfold insertEntry
    split
    · rename_i lt
      refine List.pairwise_cons.2 ⟨fun b hb => ?_, h⟩
      rcases List.mem_cons.1 hb with rfl | hb
      · exact lt
      · exact String.lt_trans lt (first b hb)
    · split
      · rename_i same
        exact List.pairwise_cons.2 ⟨fun b hb => by simpa [same] using first b hb, others⟩
      · rename_i notLt notSame
        refine List.pairwise_cons.2 ⟨fun b hb => ?_, ih others⟩
        rcases mem_insertEntry hb with rfl | hb
        · rcases Std.lt_trichotomy key a.1 with lt | same | gt
          · exact absurd lt notLt
          · exact absurd same notSame
          · exact gt
        · exact first b hb

/-- The map with one entry set. -/
def insert (m : KeyedMap β) (key : String) (value : β) : KeyedMap β :=
  ⟨insertEntry key value m.entries, increasing_insertEntry key value m.increasing⟩

/-- The map without a key. -/
def erase (m : KeyedMap β) (key : String) : KeyedMap β :=
  ⟨m.entries.filter (·.1 ≠ key), m.increasing.filter _⟩

/-- The number of entries. -/
def size (m : KeyedMap β) : Nat :=
  m.entries.length

/-- The value under a key. -/
def find? (m : KeyedMap β) (key : String) : Option β :=
  m.entries.lookup key

/-- There is nothing in the empty map. -/
@[simp] theorem find?_empty (key : String) : (empty : KeyedMap β).find? key = none := rfl

/-- A lookup takes the first entry with the key. -/
theorem lookup_cons (e : String × β) (rest : List (String × β)) (key : String) :
    (e :: rest).lookup key = if key = e.1 then some e.2 else rest.lookup key := by
  rw [List.lookup_cons]
  by_cases h : key = e.1
  · simp [h]
  · simp [h, beq_eq_false_iff_ne.2 h]

/-- The entry that was put in is found, and all others are found as before. -/
theorem lookup_insertEntry (key k : String) (value : β) (l : List (String × β)) :
    (insertEntry key value l).lookup k = if k = key then some value else l.lookup k := by
  induction l with
  | nil => simp [insertEntry, lookup_cons]
  | cons e rest ih =>
    unfold insertEntry
    split
    · rw [lookup_cons]
    · split
      · rename_i same
        by_cases h : k = key <;> simp [lookup_cons, ← same, h]
      · rename_i notSame
        rw [lookup_cons, lookup_cons, ih]
        by_cases h : k = key
        · simp [h, notSame]
        · simp [h]

/-- The value that was put in is found, and all others are found as before. -/
@[simp] theorem find?_insert (m : KeyedMap β) (key k : String) (value : β) :
    (m.insert key value).find? k = if k = key then some value else m.find? k :=
  lookup_insertEntry key k value m.entries

/-- An entry that was left out is not found, and all others are found as before. -/
theorem lookup_filter (key k : String) (l : List (String × β)) :
    (l.filter (·.1 ≠ key)).lookup k = if k = key then none else l.lookup k := by
  induction l with
  | nil => simp
  | cons e rest ih =>
    by_cases gone : e.1 = key
    · rw [List.filter_cons_of_neg (by simp [gone]), ih, lookup_cons, gone]
      split <;> rfl
    · rw [List.filter_cons_of_pos (by simp [gone]), lookup_cons, ih, lookup_cons]
      by_cases h : k = key
      · simp [h, Ne.symm gone]
      · simp [h]

/-- A key that was taken out is not found, and all others are found as before. -/
@[simp] theorem find?_erase (m : KeyedMap β) (key k : String) :
    (m.erase key).find? k = if k = key then none else m.find? k :=
  lookup_filter key k m.entries

/-- What a lookup finds is in the list. -/
theorem mem_of_lookup {key : String} {value : β} {l : List (String × β)}
    (h : l.lookup key = some value) : (key, value) ∈ l := by
  induction l with
  | nil => simp at h
  | cons e rest ih =>
    rw [lookup_cons] at h
    split at h
    · rename_i found
      exact List.mem_cons.2 (.inl (Prod.ext found (Option.some.inj h).symm))
    · exact List.mem_cons_of_mem _ (ih h)

/-- What is found in a map is one of its entries. -/
theorem mem_of_find? {m : KeyedMap β} {key : String} {value : β}
    (h : m.find? key = some value) : (key, value) ∈ m.entries :=
  mem_of_lookup h

/-- The map of a list of entries, of which the last with a key counts. -/
def ofList (entries : List (String × β)) : KeyedMap β :=
  entries.foldl (fun m e => m.insert e.1 e.2) empty

/-- Whether the map has no entries. -/
def isEmpty (m : KeyedMap β) : Bool :=
  m.entries.isEmpty

end KeyedMap
end TokenAuthority
