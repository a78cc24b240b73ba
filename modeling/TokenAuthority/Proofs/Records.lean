/-
# Structures are read back

A reader recovers what was written if it reads it back whatever order the members of objects stand
in (`Reader.Recovers`), for an object means the same in any order, and a map's entries are written
in none in particular.

Readers and writers pair up field by field (`Record.Recovers`). A field that was left out must have
its default, and one that was written must be recovered by the field's reader; a structure is then
read back if no two of its fields share a name (`Record.Recovers.read`).
-/

import Mathlib.Data.List.Forall2
import Mathlib.Data.List.Nodup
import Mathlib.Data.List.Perm.Basic
import TokenAuthority.Proofs.Entries
import TokenAuthority.Proofs.JsonText
import TokenAuthority.Proofs.Timestamps
import TokenAuthority.Resource.Metadata

namespace TokenAuthority
namespace Json

/-! ### The order of members -/

/-- A value in which the members of objects may stand in another order. -/
inductive Reordered : Value → Value → Prop where
  | refl (v : Value) : Reordered v v
  | array {items items' : List Value} (h : List.Forall₂ Reordered items items') :
    Reordered (.array items) (.array items')
  | object {members members' : List (String × Value)}
    (keys : (members'.map Prod.fst).Perm (members.map Prod.fst))
    (values : ∀ key v w, (key, v) ∈ members → (key, w) ∈ members' → Reordered v w) :
    Reordered (.object members) (.object members')

namespace Reordered

/-- Members are kept with their keys, and their values with their meaning. -/
theorem exists_members {members : List (String × Value)} {w : Value}
    (nodup : (members.map Prod.fst).Nodup)
    (h : Reordered (.object members) w) : ∃ members', w = .object members' ∧
      (members'.map Prod.fst).Perm (members.map Prod.fst) ∧
      ∀ key v w, (key, v) ∈ members → (key, w) ∈ members' → Reordered v w := by
  cases h with
  | refl =>
    refine ⟨members, rfl, .rfl, fun key v w first second => ?_⟩
    have same : some v = some w :=
      (KeyedMap.lookup_of_mem nodup first).symm.trans (KeyedMap.lookup_of_mem nodup second)
    obtain rfl := Option.some.inj same
    exact .refl v
  | object keys values => exact ⟨_, rfl, keys, values⟩

/-- Values in another order have the same numbers. -/
theorem integral {v w : Value} (h : Reordered v w) (integral : Integral v) : Integral w := by
  induction integral generalizing w with
  | null =>
    cases h
    exact .null
  | bool b =>
    cases h
    exact .bool b
  | integer n =>
    cases h
    exact .integer n
  | string s =>
    cases h
    exact .string s
  | @array items each ih =>
    cases h with
    | refl => exact .array each
    | array h =>
      refine .array ?_
      clear each
      induction h with
      | nil => simp
      | cons first _ others =>
        intro w isItem
        rcases List.mem_cons.1 isItem with rfl | later
        · exact ih _ List.mem_cons_self first
        · exact others (fun v isItem w h => ih v (List.mem_cons_of_mem _ isItem) h) w later
  | @object members each ih =>
    cases h with
    | refl => exact .object each
    | object keys values =>
      refine .object fun m isMember => ?_
      obtain ⟨m', isMember', same⟩ := List.mem_map.1 (keys.subset (List.mem_map_of_mem isMember))
      exact ih m' isMember' (values m.1 m'.2 m.2 (same ▸ isMember') isMember)

end Reordered

/-- There is nothing to reorder in an array of strings. -/
theorem reordered_strings {items : List String} {w : Value}
    (h : Reordered (Value.strings items) w) : w = Value.strings items := by
  cases h with
  | refl => rfl
  | @array _ items' h =>
    rw [Value.strings]
    congr 1
    rw [List.forall₂_map_left_iff] at h
    induction h with
    | nil => rfl
    | cons first _ others =>
      cases first
      rw [others, List.map_cons]

/-! ### Readers -/

namespace Reader

/-- A reader reads a written value as what it was written for, and all its numbers are integers. -/
structure Recovers {α : Type} (r : Reader α) (v : Value) (a : α) : Prop where
  integral : Integral v
  reads : ∀ w, Reordered v w → r (Document.ofValue w) = .ok a

/-- A string is read as what it was written for. -/
theorem recovers_string (s : String) : string.Recovers (.string s) s := by
  refine ⟨.string s, fun w reordered => ?_⟩
  cases reordered
  rfl

/-- A truth value is read as what it was written for. -/
theorem recovers_bool (b : Bool) : bool.Recovers (.bool b) b := by
  refine ⟨.bool b, fun w reordered => ?_⟩
  cases reordered
  rfl

/-- Items that are made one by one are made together. -/
theorem mapM_eq_ok {ε α β : Type} {f : α → Except ε β} {g : α → β} {l : List α}
    (h : ∀ a ∈ l, f a = .ok (g a)) : l.mapM f = .ok (l.map g) := by
  induction l with
  | nil => rfl
  | cons a rest ih =>
    rw [List.mapM_cons, h a List.mem_cons_self,
      ih fun b later => h b (List.mem_cons_of_mem _ later)]
    rfl

/-- The items of an array are read one by one. -/
theorem ofItems_eq (items : List Value) :
    Document.ofItems items = items.map Document.ofValue := by
  induction items with
  | nil => rfl
  | cons v items ih => rw [Document.ofItems, ih, List.map_cons]

/-- The members of an object are read one by one. -/
theorem ofMembers_eq (members : List (String × Value)) :
    Document.ofMembers members = members.map fun m => (.ok m.1, Document.ofValue m.2) := by
  induction members with
  | nil => rfl
  | cons m members ih => rw [Document.ofMembers, ih, List.map_cons]

/-- An array of strings is read as the strings. -/
theorem texts_strings (items : List String) :
    Resource.texts (Document.ofValue (Value.strings items)) = .ok items := by
  have each : ((items.map Value.string).map Document.ofValue).mapM string = .ok items := by
    rw [List.map_map, List.mapM_map]
    exact (mapM_eq_ok (g := id) fun s _ => rfl).trans (by rw [List.map_id])
  rw [Value.strings, Document.ofValue, ofItems_eq, Resource.texts, list, each]
  rfl

/-- There is no number in an array of strings. -/
theorem integral_strings (items : List String) : Integral (Value.strings items) := by
  refine .array fun v isItem => ?_
  obtain ⟨s, -, rfl⟩ := List.mem_map.1 isItem
  exact .string s

/-- A list of strings is read as what it was written for. -/
theorem recovers_texts (items : List String) :
    Resource.texts.Recovers (Value.strings items) items := by
  refine ⟨integral_strings items, fun w reordered => ?_⟩
  rw [reordered_strings reordered, texts_strings]

/-- An integer is read as itself. -/
theorem toInt?_ofInt (n : Int) : (Number.ofInt n).toInt? = some n := by
  have size : Number.ofDigits (Nat.toDigits 10 n.natAbs) = n.natAbs := Nat.ofDigitChars_ten_toDigits
  by_cases negative : n < 0
  · have positive : n.natAbs ≠ 0 := by omega
    have value : -(n.natAbs : Int) = n := by omega
    simp only [Number.toInt?, Number.ofInt, size, negative, if_neg positive, decide_true,
      List.isEmpty_nil, Option.isNone_none, Bool.and_self, if_true, value]
  · have value : (n.natAbs : Int) = n := by omega
    simp only [Number.toInt?, Number.ofInt, size, negative, decide_false, List.isEmpty_nil,
      Option.isNone_none, Bool.and_self, if_true, Bool.false_eq_true, if_false, value]

/-- An integer of less than 309 digits does not overflow. -/
theorem overflows_ofInt {n : Int} (short : (Nat.toDigits 10 n.natAbs).length < 309) :
    (Number.ofInt n).overflows = false := by
  have digits : (((Nat.toDigits 10 n.natAbs).dropWhile (· = '0')).length : Int) < 309 := by
    exact_mod_cast (List.dropWhile_sublist _).length_le.trans_lt short
  simp [Number.overflows, Number.ofInt, Number.scale, digits]

/-- An integer within the bounds is read as what it was written for. -/
theorem recovers_integer {low high n : Int} (least : low ≤ n) (most : n ≤ high)
    (short : (Nat.toDigits 10 n.natAbs).length < 309) :
    (integer low high).Recovers (.integer n) n := by
  refine ⟨.integer n, fun w reordered => ?_⟩
  cases reordered
  rw [Value.integer, Document.ofValue, integer, toInt?_ofInt]
  simp [overflows_ofInt short, least, most]

/-- A reader with a function behind it reads what the function makes. -/
theorem Recovers.map {α β : Type} {r : Reader α} {v : Value} {a : α} (h : r.Recovers v a)
    (f : α → β) : Recovers (fun d => f <$> r d) v (f a) :=
  ⟨h.integral, fun w reordered => by rw [h.reads w reordered]; rfl⟩

/-- What is written for a value that may be missing is no `null`. -/
theorem Recovers.optional {α : Type} {r : Reader α} {v : Value} {a : α} (h : r.Recovers v a)
    (notNull : v ≠ .null) : (optional r).Recovers v (some a) := by
  refine ⟨h.integral, fun w reordered => ?_⟩
  have reads := h.reads w reordered
  cases w with
  | null =>
    cases reordered
    exact absurd rfl notNull
  | _ =>
    change some <$> r _ = _
    rw [reads]
    rfl

/-- A reader with a partial function behind it reads what the function makes. -/
theorem Recovers.andThen {α β : Type} {r : Reader α} {v : Value} {a : α} (h : r.Recovers v a)
    {f : α → Option β} {b : β} (made : f a = some b) : (r.andThen f).Recovers v b := by
  refine ⟨h.integral, fun w reordered => ?_⟩
  have reads := h.reads w reordered
  unfold Reader.andThen
  rw [reads]
  simp only [bind, Except.bind, made]

/-- A timestamp is read as the instant it was written for. -/
theorem recovers_timestamp (i : Time.Instant) :
    Resource.readTimestamp.Recovers (Resource.timestamp i) i := by
  refine (recovers_string _).andThen ?_
  rw [String.toList_ofList, Time.Rfc3339.read?_write]

/-- An entry of a map of lists of texts as it is written. -/
def entry (e : String × List String) : String × Value :=
  (e.1, Value.strings e.2)

/-- A map's entries can only be reordered as a whole. -/
theorem exists_entries {m : KeyedMap (List String)} {w : Value}
    (h : Reordered (.object (m.entries.map entry)) w) :
    ∃ l : List (String × List String), l.Perm m.entries ∧ w = .object (l.map entry) := by
  have keys : (m.entries.map entry).map Prod.fst = m.entries.map Prod.fst := by
    rw [List.map_map]
    rfl
  obtain ⟨members, rfl, perm, values⟩ := h.exists_members (keys ▸ m.nodup_keys)
  have nodup : members.Nodup := List.Nodup.of_map _ (perm.nodup_iff.2 (keys ▸ m.nodup_keys))
  have subset : members ⊆ m.entries.map entry := by
    rintro ⟨key, w⟩ isMember
    obtain ⟨⟨_, v⟩, isEntry, rfl⟩ := List.mem_map.1 (perm.subset (List.mem_map_of_mem isMember))
    obtain ⟨e, -, same⟩ := List.mem_map.1 isEntry
    obtain rfl : Value.strings e.2 = v := congrArg Prod.snd same
    rw [reordered_strings (values _ _ _ isEntry isMember)]
    exact isEntry
  have length : (m.entries.map entry).length ≤ members.length := by
    simpa using perm.length_eq.ge
  have same : members.Perm (m.entries.map entry) :=
    (List.subperm_of_subset nodup subset).perm_of_length_le length
  obtain ⟨l, isMap, perm⟩ := Eq.mpr (congrFun (congrFun (List.eq_map_comp_perm entry) _) _) same
  exact ⟨l, perm, congrArg Value.object isMap⟩

/-- A map of lists of strings is read as what it was written for. -/
theorem recovers_map (m : KeyedMap (List String)) :
    (map Resource.texts).Recovers (.object (m.entries.map entry)) m := by
  refine ⟨.object fun member isMember => ?_, fun w reordered => ?_⟩
  · obtain ⟨e, -, rfl⟩ := List.mem_map.1 isMember
    exact integral_strings e.2
  · obtain ⟨l, perm, rfl⟩ := exists_entries reordered
    rw [Document.ofValue, ofMembers_eq, List.map_map]
    unfold Reader.map
    dsimp only
    rw [List.mapM_map]
    refine (congrArg (· >>= _) (mapM_eq_ok (g := id) fun e _ => ?_)).trans ?_
    · simp only [Function.comp_apply, entry, texts_strings]
      rfl
    · rw [List.map_id]
      exact congrArg Except.ok (KeyedMap.ofList_eq perm)

end Reader

/-! ### Fields -/

namespace Record

/-- What a reader is given for a field that was written, and nothing for one that was left out. -/
inductive Finds : Option Document → Option Value → Prop where
  | none : Finds none none
  | some {v w : Value} (reordered : Reordered v w) : Finds (some (Document.ofValue w)) (some v)

/-- A check lets a field's value pass. -/
def Accepts (check : Document → Except Fault Unit) (written : Option Value) : Prop :=
  ∀ v ∈ written, Integral v ∧ ∀ w, Reordered v w → check (Document.ofValue w) = .ok ()

/-- A record's fields are written by the same names, each passes its check, and the structure is
made again of what is found under the names. -/
structure Recovers {α : Type} (r : Record α) (fields : List (String × Option Value)) (a : α) :
    Prop where
  accepted : List.Forall₂ (fun known field => known.1 = field.1 ∧ Accepts known.2 field.2)
    r.fields fields
  rebuilt : ∀ find, (∀ field ∈ fields, Finds (find field.1) field.2) → r.build find = .ok a

variable {α β : Type}

/-- What a reader reads passes its check. -/
theorem check_eq_ok {r : Reader α} {d : Document} {a : α} (h : r d = .ok a) :
    check r d = .ok () := by
  rw [check, h]
  rfl

/-- A field with a default is left out only if it has the default. -/
theorem recovers_field (name : String) {r : Reader α} {written : Option Value} {a default : α}
    (present : ∀ v ∈ written, r.Recovers v a) (absent : written = none → a = default) :
    (field name r default).Recovers [(name, written)] a := by
  refine ⟨.cons ⟨rfl, fun v isWritten => ?_⟩ .nil, fun find finds => ?_⟩
  · have recovers := present v isWritten
    exact ⟨recovers.integral, fun w reordered => check_eq_ok (recovers.reads w reordered)⟩
  · have found := finds _ List.mem_cons_self
    unfold field
    dsimp only at found ⊢
    generalize find name = d at found
    cases found with
    | none => rw [absent rfl]
    | some reordered => exact (present _ rfl).reads _ reordered

/-- A required field is read as what its reader reads. -/
theorem recovers_required (name : String) {r : Reader α} {v : Value} {a : α}
    (h : r.Recovers v a) : (required name r).Recovers [(name, some v)] a := by
  refine ⟨.cons ⟨rfl, ?_⟩ .nil, fun find finds => ?_⟩
  · rintro v ⟨⟩
    exact ⟨h.integral, fun w reordered => check_eq_ok (h.reads w reordered)⟩
  · have found := finds _ List.mem_cons_self
    unfold required
    dsimp only at found ⊢
    generalize find name = d at found
    cases found with
    | some reordered => exact h.reads _ reordered

/-- A record with a function behind it is read as what the function makes. -/
theorem Recovers.map {r : Record α} {fields : List (String × Option Value)} {a : α}
    (h : r.Recovers fields a) (f : α → β) : (f <$> r).Recovers fields (f a) := by
  refine ⟨h.accepted, fun find finds => ?_⟩
  change f <$> r.build find = _
  rw [h.rebuilt find finds]
  rfl

/-- The fields of two records, one after the other, are read as what both make together. -/
theorem Recovers.seq {f : Record (α → β)} {r : Record α}
    {fields fields' : List (String × Option Value)} {g : α → β} {a : α}
    (hf : f.Recovers fields g) (hr : r.Recovers fields' a) :
    (f <*> r).Recovers (fields ++ fields') (g a) := by
  refine ⟨List.rel_append hf.accepted hr.accepted, fun find finds => ?_⟩
  have first := hf.rebuilt find fun field isField => finds field (List.mem_append_left _ isField)
  have second := hr.rebuilt find fun field isField => finds field (List.mem_append_right _ isField)
  change (do return (← f.build find) (← r.build find)) = _
  rw [first, second]
  rfl

/-! ### Objects -/

/-- What is found in an object of known members: the last stands first. -/
def documents (members : List (String × Value)) : List (String × Document) :=
  (members.map fun m => (m.1, Document.ofValue m.2)).reverse

/-- The keys of what is found are those of the members, the last first. -/
theorem keys_documents (members : List (String × Value)) :
    (documents members).map Prod.fst = (members.map Prod.fst).reverse := by
  rw [documents, List.map_reverse, List.map_map]
  rfl

/-- All members of an object are found if they are known, accepted and different. -/
theorem collect_ofMembers {known : List (String × (Document → Except Fault Unit))}
    {members : List (String × Value)} {found : List (String × Document)}
    (nodup : (members.map Prod.fst).Nodup) (fresh : ∀ m ∈ members, m.1 ∉ found.map Prod.fst)
    (accepted : ∀ m ∈ members, ∃ check, known.lookup m.1 = some check ∧
      check (Document.ofValue m.2) = .ok ()) :
    collect known (Document.ofMembers members) found =
      .ok (documents members ++ found) := by
  induction members generalizing found with
  | nil => rfl
  | cons m members ih =>
    obtain ⟨different, nodup⟩ := List.nodup_cons.1 nodup
    obtain ⟨check, isKnown, passes⟩ := accepted m List.mem_cons_self
    have isNew : found.lookup m.1 = none := KeyedMap.lookup_eq_none (fresh m List.mem_cons_self)
    have fresh' : ∀ m' ∈ members,
        m'.1 ∉ ((m.1, Document.ofValue m.2) :: found).map Prod.fst := by
      intro m' isMember isFound
      rcases List.mem_cons.1 isFound with same | isFound
      · exact different (same ▸ List.mem_map_of_mem isMember)
      · exact fresh m' (List.mem_cons_of_mem _ isMember) isFound
    have rest := ih nodup fresh' fun m' isMember => accepted m' (List.mem_cons_of_mem _ isMember)
    rw [Document.ofMembers]
    simp only [collect, bind, Except.bind, isKnown, isNew, passes, Option.isSome_none,
      Bool.false_eq_true, if_false]
    refine rest.trans ?_
    simp [documents]

/-- The members that are written are the fields that have a value. -/
theorem mem_members {fields : List (String × Option Value)} {key : String} {v : Value} :
    (key, v) ∈ fields.filterMap (fun (name, value) => value.map (name, ·)) ↔
      (key, some v) ∈ fields := by
  simp [List.mem_filterMap]

/-- The members that are written are in the order of the fields. -/
theorem keys_members_sublist (fields : List (String × Option Value)) :
    List.Sublist ((fields.filterMap fun (name, value) => value.map (name, ·)).map Prod.fst)
      (fields.map Prod.fst) := by
  induction fields with
  | nil => exact .slnil
  | cons field fields ih =>
    obtain ⟨name, value⟩ := field
    cases value with
    | none => exact ih.cons _
    | some v => exact ih.cons_cons _

/-- Every field that is written is known, and passes its check. -/
theorem exists_known {known : List (String × (Document → Except Fault Unit))}
    {fields : List (String × Option Value)}
    (h : List.Forall₂ (fun known field => known.1 = field.1 ∧ Accepts known.2 field.2) known fields)
    {field : String × Option Value} (isField : field ∈ fields) :
    ∃ check, (field.1, check) ∈ known ∧ Accepts check field.2 := by
  induction h with
  | nil => simp at isField
  | cons first _ ih =>
    rcases List.mem_cons.1 isField with rfl | later
    · exact ⟨_, first.1 ▸ List.mem_cons_self, first.2⟩
    · obtain ⟨check, isKnown, accepts⟩ := ih later
      exact ⟨check, List.mem_cons_of_mem _ isKnown, accepts⟩

/-- The fields that a record knows are those that are written. -/
theorem Recovers.keys {r : Record α} {fields : List (String × Option Value)} {a : α}
    (h : r.Recovers fields a) : r.fields.map Prod.fst = fields.map Prod.fst := by
  rw [← List.forall₂_eq_eq_eq, List.forall₂_map_left_iff, List.forall₂_map_right_iff]
  exact h.accepted.imp fun _ _ both => both.1

/-- Whatever the order of the members, each field is found that was written. -/
theorem finds_lookup {fields : List (String × Option Value)} {members : List (String × Value)}
    (nodup : (fields.map Prod.fst).Nodup)
    (keys : (members.map Prod.fst).Perm
      ((fields.filterMap fun (name, value) => value.map (name, ·)).map Prod.fst))
    (values : ∀ key v w, (key, some v) ∈ fields → (key, w) ∈ members → Reordered v w)
    {field : String × Option Value} (isField : field ∈ fields) :
    Finds ((documents members).lookup field.1) field.2 := by
  have different : ((documents members).map Prod.fst).Nodup := by
    rw [keys_documents, List.nodup_reverse]
    exact keys.nodup_iff.2 (nodup.sublist (keys_members_sublist fields))
  obtain ⟨key, _ | v⟩ := field
  · have absent : key ∉ (documents members).map Prod.fst := by
      rw [keys_documents, List.mem_reverse, keys.mem_iff]
      intro isKey
      obtain ⟨⟨key', v⟩, isMember, same⟩ := List.mem_map.1 isKey
      obtain rfl : key' = key := same
      have leftOut := KeyedMap.lookup_of_mem nodup isField
      have written := KeyedMap.lookup_of_mem nodup (mem_members.1 isMember)
      cases leftOut.symm.trans written
    rw [KeyedMap.lookup_eq_none absent]
    exact .none
  · have isKey := keys.symm.subset (List.mem_map_of_mem (mem_members.2 isField))
    obtain ⟨⟨key', w⟩, isMember, same⟩ := List.mem_map.1 isKey
    obtain rfl : key' = key := same
    have isFound : (key', Document.ofValue w) ∈ documents members :=
      List.mem_reverse.2 (List.mem_map.2 ⟨(key', w), isMember, rfl⟩)
    have found := KeyedMap.lookup_of_mem different isFound
    dsimp only at found ⊢
    rw [found]
    exact .some (values _ v w isField isMember)

/-- **A structure is read back** if no two of its fields share a name. -/
theorem Recovers.read {r : Record α} {fields : List (String × Option Value)} {a : α}
    (h : r.Recovers fields a) (nodup : (fields.map Prod.fst).Nodup) :
    r.read.Recovers (Resource.members fields) a := by
  have different := nodup.sublist (keys_members_sublist fields)
  refine ⟨.object ?_, fun w reordered => ?_⟩
  · rintro ⟨key, v⟩ isMember
    obtain ⟨check, -, accepts⟩ := exists_known h.accepted (mem_members.1 isMember)
    exact (accepts v rfl).1
  · obtain ⟨members, rfl, keys, values⟩ := reordered.exists_members different
    have accepted : ∀ m ∈ members, ∃ check, r.fields.lookup m.1 = some check ∧
        check (Document.ofValue m.2) = .ok () := by
      rintro ⟨key, w⟩ isMember
      have isKey := keys.subset (List.mem_map_of_mem isMember)
      obtain ⟨⟨_, v⟩, isWritten, rfl⟩ := List.mem_map.1 isKey
      obtain ⟨check, isKnown, accepts⟩ := exists_known h.accepted (mem_members.1 isWritten)
      exact ⟨check, KeyedMap.lookup_of_mem (h.keys ▸ nodup) isKnown,
        (accepts v rfl).2 w (values _ v w isWritten isMember)⟩
    have collected : collect r.fields (Document.ofMembers members) [] =
        .ok (documents members ++ []) :=
      collect_ofMembers (keys.nodup_iff.2 different) (fun _ _ => List.not_mem_nil) accepted
    rw [Document.ofValue, Record.read, collected, List.append_nil]
    exact h.rebuilt _ fun field isField => finds_lookup nodup keys
      (fun key v w isField => values key v w (mem_members.2 isField)) isField

end Record
end Json
end TokenAuthority
