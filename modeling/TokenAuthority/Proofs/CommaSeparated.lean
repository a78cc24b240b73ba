/-
# Comma separated settings

The audiences of the server and its admission plugins are each set by one text. It is split at its
commas:

| part between commas | entry |
| --- | --- |
| nothing, or blank characters only | none |
| any other | the part, without the blank characters at its ends |

A comma divides the entries before it from those behind it (`Text.splitList_append`). With what one
part comes to this is all that there is to the reader of lists. So the texts of a list can be told
without reading them (`Text.Tells`): its entries in their order, each with blank characters around
it, and blank parts anywhere between. The reader agrees with that in both directions
(`Text.splitList_eq_iff`), and nothing is lost or merged.
-/

import TokenAuthority.Proofs.ResourcePath

namespace TokenAuthority
namespace Text

/-- What can be an entry of a list. -/
structure IsEntry (entry : String) : Prop where
  nonempty : entry ≠ ""
  noComma : ',' ∉ entry.toList
  first : ∀ c ∈ entry.toList.head?, isBlank c = false
  last : ∀ c ∈ entry.toList.getLast?, isBlank c = false

instance (entry : String) : Decidable (IsEntry entry) :=
  decidable_of_iff (entry ≠ "" ∧ ',' ∉ entry.toList ∧ entry.toList.head?.all (!isBlank ·) = true ∧
      entry.toList.getLast?.all (!isBlank ·) = true) <| by
    simp only [Option.all_eq_true, Bool.not_eq_true']
    exact ⟨fun ⟨nonempty, noComma, first, last⟩ => ⟨nonempty, noComma, first, last⟩,
      fun ⟨nonempty, noComma, first, last⟩ => ⟨nonempty, noComma, first, last⟩⟩

/-- A text of blank characters only, or none. -/
def IsBlankText (text : String) : Prop :=
  ∀ c ∈ text.toList, isBlank c = true

instance (text : String) : Decidable (IsBlankText text) :=
  decidable_of_iff (text.toList.all isBlank = true) List.all_eq_true

/-- The parts of a text tell the entries of a list: each entry has a part of its own, with blank
characters around it, and the other parts are blank. -/
inductive Tells : List String → List String → Prop where
  | nil : Tells [] []
  | blank {part : String} {parts entries : List String} (blank : IsBlankText part)
      (rest : Tells parts entries) : Tells (part :: parts) entries
  | entry {before entry after : String} {parts entries : List String} (isEntry : IsEntry entry)
      (left : IsBlankText before) (right : IsBlankText after) (rest : Tells parts entries) :
      Tells ((before ++ entry ++ after) :: parts) (entry :: entries)

/-! ### One part -/

section Part

variable {part : String}

/-- There is no comma among blanks. -/
theorem IsBlankText.noComma (blank : IsBlankText part) : ',' ∉ part.toList :=
  fun mem => absurd (blank ',' mem) (by decide)

/-- A part without commas is trimmed, and left out if nothing is left. -/
theorem splitList_of_noComma (noComma : ',' ∉ part.toList) :
    splitList part = [trim part].filter (· ≠ "") := by
  unfold splitList
  rw [fields_of_notMem noComma]
  rfl

/-- A blank part has no entries. -/
theorem splitList_of_blank (blank : IsBlankText part) : splitList part = [] := by
  rw [splitList_of_noComma blank.noComma, trim, (isCore_nil_iff.2 blank).strip_eq]
  rfl

/-- A part with an entry between blanks has just that entry. -/
theorem splitList_of_core {entry : String} (noComma : ',' ∉ part.toList) (nonempty : entry ≠ "")
    (core : IsCore isBlank part.toList entry.toList) : splitList part = [entry] := by
  rw [splitList_of_noComma noComma, trim, core.strip_eq, String.ofList_toList]
  exact List.filter_eq_self.2 fun other mem => decide_eq_true (List.mem_singleton.1 mem ▸ nonempty)

/-- Blank characters around an entry are no part of it. -/
theorem IsEntry.splitList_eq {before entry after : String} (isEntry : IsEntry entry)
    (left : IsBlankText before) (right : IsBlankText after) :
    splitList (before ++ entry ++ after) = [entry] := by
  have parts : (before ++ entry ++ after).toList =
      before.toList ++ entry.toList ++ after.toList := by
    rw [String.toList_append, String.toList_append]
  refine splitList_of_core ?_ isEntry.nonempty
    ⟨⟨_, _, parts, left, right⟩, isEntry.first, isEntry.last⟩
  rw [parts, List.mem_append, List.mem_append]
  exact not_or.2 ⟨not_or.2 ⟨left.noComma, isEntry.noComma⟩, right.noComma⟩

/-- A part without a comma is blank, or has an entry in it. -/
theorem isBlankText_or_exists_isEntry (noComma : ',' ∉ part.toList) :
    IsBlankText part ∨ ∃ before entry after, part = before ++ entry ++ after ∧ IsEntry entry ∧
      IsBlankText before ∧ IsBlankText after := by
  have core := isCore_strip isBlank part.toList
  by_cases empty : strip isBlank part.toList = []
  · exact .inl (isCore_nil_iff.1 (empty ▸ core))
  · obtain ⟨⟨left, right, split, before, after⟩, first, last⟩ := core
    refine .inr ⟨String.ofList left, trim part, String.ofList right, ?_, ⟨?_, ?_, ?_, ?_⟩, ?_, ?_⟩
    · rw [trim, ← String.ofList_append, ← String.ofList_append, ← split, String.ofList_toList]
    · exact fun none => empty (by simpa [trim] using congrArg String.toList none)
    · rw [trim, String.toList_ofList]
      refine fun mem => noComma ?_
      rw [split]
      exact List.mem_append_left _ (List.mem_append_right _ mem)
    · rwa [trim, String.toList_ofList]
    · rwa [trim, String.toList_ofList]
    · rwa [IsBlankText, String.toList_ofList]
    · rwa [IsBlankText, String.toList_ofList]

end Part

/-! ### All parts -/

/-- **A comma divides the entries before it from those behind it.** -/
theorem splitList_append (a b : String) :
    splitList (a ++ "," ++ b) = splitList a ++ splitList b := by
  have split : (a ++ "," ++ b).toList = a.toList ++ ',' :: b.toList := by simp
  unfold splitList
  rw [split, fields_append, List.map_append, List.filter_append]

/-- The entries of several parts are those of the first and then those of the others. -/
theorem splitList_intercalate_cons (part : String) (parts : List String) :
    splitList (",".intercalate (part :: parts)) =
      splitList part ++ splitList (",".intercalate parts) := by
  cases parts with
  | nil =>
    have nothing : splitList "" = [] := splitList_of_blank nofun
    rw [String.intercalate_singleton, String.intercalate_nil, nothing, List.append_nil]
  | cons next parts => rw [String.intercalate_cons_cons, splitList_append]

variable {parts entries : List String}

/-- What parts tell are entries. -/
theorem Tells.isEntry (tells : Tells parts entries) : ∀ entry ∈ entries, IsEntry entry := by
  induction tells with
  | nil => exact nofun
  | blank blank rest ih => exact ih
  | entry isEntry left right rest ih => exact List.forall_mem_cons.2 ⟨isEntry, ih⟩

/-- The entries that parts tell are those that are read. -/
theorem Tells.splitList_eq (tells : Tells parts entries) :
    splitList (",".intercalate parts) = entries := by
  induction tells with
  | nil => rfl
  | blank blank rest ih =>
    rw [splitList_intercalate_cons, splitList_of_blank blank, ih, List.nil_append]
  | entry isEntry left right rest ih =>
    rw [splitList_intercalate_cons, isEntry.splitList_eq left right, ih, List.singleton_append]

/-- Parts without commas tell what is read from the whole. -/
theorem tells_splitList (noComma : ∀ part ∈ parts, ',' ∉ part.toList) :
    Tells parts (splitList (",".intercalate parts)) := by
  induction parts with
  | nil => exact .nil
  | cons part parts ih =>
    obtain ⟨first, others⟩ := List.forall_mem_cons.1 noComma
    rw [splitList_intercalate_cons]
    obtain blank | ⟨before, entry, after, rfl, isEntry, left, right⟩ :=
      isBlankText_or_exists_isEntry first
    · rw [splitList_of_blank blank]
      exact .blank blank (ih others)
    · rw [isEntry.splitList_eq left right]
      exact .entry isEntry left right (ih others)

/-- Every text is made of parts without commas. -/
theorem exists_eq_intercalate (text : String) :
    ∃ parts, text = ",".intercalate parts ∧ ∀ part ∈ parts, ',' ∉ part.toList := by
  refine ⟨(fields ',' text.toList).map String.ofList, ?_, ?_⟩
  · refine String.toList_inj.1 ?_
    rw [String.toList_intercalate, List.map_map]
    simp [intercalate_fields]
  · intro part mem
    obtain ⟨chars, isField, rfl⟩ := List.mem_map.1 mem
    rw [String.toList_ofList]
    exact notMem_of_mem_fields isField

/-- **The reader of lists reads what the parts of a text tell**, and nothing else. -/
theorem splitList_eq_iff {text : String} :
    splitList text = entries ↔ ∃ parts, text = ",".intercalate parts ∧ Tells parts entries := by
  constructor
  · rintro rfl
    obtain ⟨parts, rfl, noComma⟩ := exists_eq_intercalate text
    exact ⟨parts, rfl, tells_splitList noComma⟩
  · rintro ⟨parts, rfl, tells⟩
    exact tells.splitList_eq

/-- What is read are entries. -/
theorem isEntry_of_mem_splitList {text entry : String} (mem : entry ∈ splitList text) :
    IsEntry entry := by
  obtain ⟨parts, -, tells⟩ := splitList_eq_iff.1 (rfl : splitList text = splitList text)
  exact tells.isEntry entry mem

/-- Entries tell themselves. -/
theorem tells_self (isEntry : ∀ entry ∈ entries, IsEntry entry) : Tells entries entries := by
  induction entries with
  | nil => exact .nil
  | cons entry entries ih =>
    obtain ⟨first, others⟩ := List.forall_mem_cons.1 isEntry
    have tells : Tells (("" ++ entry ++ "") :: entries) (entry :: entries) :=
      .entry first nofun nofun (ih others)
    rwa [String.empty_append, String.append_empty] at tells

/-- **Lists are read without loss.** The entries of two texts with a comma between them are those of
the one and then those of the other. Whatever the text, an entry is not empty, has no comma in it,
and neither begins nor ends with a blank character. A list is read from a text exactly if the text
is made of parts, with commas between them, that tell the list: its entries in their order, each
with any blank characters around it, and any number of blank parts anywhere. So to join the entries
that were read by commas, and to read the result, gives the same entries. -/
theorem splitList_lossless :
    (∀ a b, splitList (a ++ "," ++ b) = splitList a ++ splitList b) ∧
    (∀ text, ∀ entry ∈ splitList text, IsEntry entry) ∧
    (∀ text entries, splitList text = entries ↔
      ∃ parts, text = ",".intercalate parts ∧ Tells parts entries) ∧
    ∀ text, splitList (",".intercalate (splitList text)) = splitList text :=
  ⟨splitList_append, fun _ _ => isEntry_of_mem_splitList, fun _ _ => splitList_eq_iff,
    fun _ => (tells_self fun _ => isEntry_of_mem_splitList).splitList_eq⟩

/-- The hypotheses of `splitList_lossless` are satisfiable: two audiences, with an ideographic space
before the first, a tab behind it and a blank part between them. -/
theorem splitList_lossless_audiences :
    let text := "\u3000https://kubernetes.default.svc\t,, other"
    splitList text = ["https://kubernetes.default.svc", "other"] ∧ IsEntry "other" ∧
      splitList "https://kubernetes.default.svc,other" = splitList text := by
  intro text
  obtain ⟨-, entries, reads, again⟩ := splitList_lossless
  have tells :
      Tells ["\u3000" ++ "https://kubernetes.default.svc" ++ "\t", "", " " ++ "other" ++ ""]
        ["https://kubernetes.default.svc", "other"] :=
    .entry (by decide) (by decide) (by decide)
      (.blank (by decide) (.entry (by decide) (by decide) (by decide) .nil))
  have read : splitList text = ["https://kubernetes.default.svc", "other"] :=
    (reads _ _).2 ⟨_, rfl, tells⟩
  have same := again text
  rw [read] at same
  exact ⟨read, entries text "other" (by rw [read]; decide), same.trans read.symm⟩

end Text
end TokenAuthority
