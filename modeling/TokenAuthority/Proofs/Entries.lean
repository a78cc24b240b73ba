/-
# Entries of a map

The entries of a map have different keys, so that a key finds exactly what is listed under it, and
the map can be made again of its entries, in whatever order they are listed (`KeyedMap.ofList_eq`).
-/

import Mathlib.Data.List.Induction
import Mathlib.Data.List.Nodup
import Mathlib.Data.List.Perm.Basic
import TokenAuthority.KeyedMap

namespace TokenAuthority
namespace KeyedMap

open scoped List

variable {β : Type}

/-- Where no key is there twice, each entry is found under its key. -/
theorem lookup_of_mem {l : List (String × β)} (nodup : (l.map Prod.fst).Nodup) {e : String × β}
    (h : e ∈ l) : l.lookup e.1 = some e.2 := by
  induction l with
  | nil => simp at h
  | cons a rest ih =>
    obtain ⟨fresh, others⟩ := List.nodup_cons.1 nodup
    rw [lookup_cons]
    rcases List.mem_cons.1 h with rfl | later
    · exact if_pos rfl
    · rw [if_neg, ih others later]
      intro same
      exact fresh (same ▸ List.mem_map_of_mem later)

/-- Something is found exactly under the keys that are there. -/
theorem isSome_lookup {l : List (String × β)} {key : String} :
    (l.lookup key).isSome = true ↔ key ∈ l.map Prod.fst := by
  rw [Option.isSome_iff_ne_none, Ne, List.lookup_eq_none_iff]
  simp

/-- Nothing is found under a key that is not there. -/
theorem lookup_eq_none {l : List (String × β)} {key : String} (h : key ∉ l.map Prod.fst) :
    l.lookup key = none :=
  Option.not_isSome_iff_eq_none.1 (mt isSome_lookup.1 h)

/-- An entry with a new key is added to the others. -/
theorem insertEntry_perm {key : String} {l : List (String × β)} (h : key ∉ l.map Prod.fst)
    (value : β) : (insertEntry key value l).Perm ((key, value) :: l) := by
  induction l with
  | nil => exact .rfl
  | cons a rest ih =>
    obtain ⟨other, absent⟩ := not_or.1 (mt List.mem_cons.2 h)
    unfold insertEntry
    rw [if_neg other]
    split
    · exact .rfl
    · exact ((ih absent).cons a).trans (.swap _ _ _)

/-- Where no key is there twice, a map of some entries has just these. -/
theorem entries_ofList_perm {l : List (String × β)} (nodup : (l.map Prod.fst).Nodup) :
    (ofList l).entries.Perm l := by
  induction l using List.reverseRecOn with
  | nil => exact .rfl
  | append_singleton l e ih =>
    rw [List.map_append] at nodup
    obtain ⟨nodup, -, apart⟩ := List.nodup_append.1 nodup
    have known := ih nodup
    have fresh : e.1 ∉ (ofList l).entries.map Prod.fst := by
      rw [(known.map Prod.fst).mem_iff]
      exact fun isKey => apart e.1 isKey e.1 List.mem_cons_self rfl
    have last : ofList (l ++ [e]) = (ofList l).insert e.1 e.2 := by
      simp [ofList]
    rw [last]
    calc insertEntry e.1 e.2 (ofList l).entries
      _ ~ e :: (ofList l).entries := insertEntry_perm fresh e.2
      _ ~ e :: l := known.cons e
      _ ~ l ++ [e] := (List.perm_append_singleton e l).symm

/-- No key of a map is there twice. -/
theorem nodup_keys (m : KeyedMap β) : (m.entries.map Prod.fst).Nodup := by
  refine List.pairwise_map.2 (m.increasing.imp ?_)
  rintro a b less same
  exact String.lt_irrefl a.1 (same ▸ less)

/-- A map is that of its entries, in whatever order they are listed. -/
theorem ofList_eq {l : List (String × β)} {m : KeyedMap β} (h : l.Perm m.entries) :
    ofList l = m := by
  have nodup : (l.map Prod.fst).Nodup := (h.map Prod.fst).nodup_iff.2 m.nodup_keys
  refine ext (List.Perm.eq_of_pairwise ?_ (ofList l).increasing m.increasing
    ((entries_ofList_perm nodup).trans h))
  intro a b _ _ less greater
  exact absurd greater (String.lt_asymm less)

end KeyedMap

end TokenAuthority
