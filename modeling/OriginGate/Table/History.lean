import Mathlib.Data.Finset.Card
import OriginGate.Table.Lemmas

/-! What a table holds after any list of insertions, told from the list alone. The insertions under
one key are a history of their own: the first of them gives the spelling, the last one the value,
and what stands between them or under other keys has no part in either. -/
namespace OriginGate.Table
variable {κ : Type} [DecidableEq κ] {fold : String → κ} {α : Type}

/-- Those of a list of insertions that are under the key of a name, in order. -/
def under (fold : String → κ) (items : List (String × α)) (name : String) : List (String × α) :=
  items.filter fun item => fold item.1 = fold name

/-- How the first insertion under the key of a name spells it. -/
def firstSpelling? (fold : String → κ) (items : List (String × α)) (name : String) :
    Option String :=
  (under fold items name).head?.map Prod.fst

/-- The value of the last insertion under the key of a name. -/
def lastValue? (fold : String → κ) (items : List (String × α)) (name : String) : Option α :=
  (under fold items name).getLast?.map Prod.snd

section Under
variable {item : String × α} {name : String}

theorem under_cons_of_same (same : fold item.1 = fold name) (later : List (String × α)) :
    under fold (item :: later) name = item :: under fold later name := by
  simp [under, same]

theorem under_cons_of_other (other : fold item.1 ≠ fold name) (later : List (String × α)) :
    under fold (item :: later) name = under fold later name := by
  simp [under, other]

theorem under_eq_nil_iff {items : List (String × α)} :
    under fold items name = [] ↔ ∀ item ∈ items, fold item.1 ≠ fold name := by
  simp [under]

/-- The first insertion under a key is the one with none under it before. -/
theorem firstSpelling?_split {before : List (String × α)} {spelling : String}
    (none : ∀ item ∈ before, fold item.1 ≠ fold name) (same : fold spelling = fold name)
    (value : α) (later : List (String × α)) :
    firstSpelling? fold (before ++ (spelling, value) :: later) name = some spelling := by
  have begins : under fold (before ++ (spelling, value) :: later) name =
      (spelling, value) :: under fold later name := by
    rw [under, List.filter_append, ← under, ← under, under_eq_nil_iff.mpr none]
    exact under_cons_of_same same later
  rw [firstSpelling?, begins]
  rfl

end Under

/-! ## Look-ups -/

/-- A later list of insertions overrules what a table held by its last insertion under each key. -/
theorem get?_insertAll (table : Table fold α) (items : List (String × α)) (name : String) :
    (table.insertAll items).get? name = (lastValue? fold items name).or (table.get? name) := by
  induction items generalizing table with
  | nil => rfl
  | cons item later ih =>
    rw [insertAll_cons, ih, get?_insert]
    by_cases same : fold item.1 = fold name
    · rw [if_pos same.symm, lastValue?, lastValue?, under_cons_of_same same, List.getLast?_cons]
      cases (under fold later name).getLast? <;> rfl
    · rw [if_neg (Ne.symm same), lastValue?, lastValue?, under_cons_of_other same]

/-- What a table held keeps its spelling, and the rest is spelled as it is first inserted. -/
theorem spelling?_insertAll (table : Table fold α) (items : List (String × α)) (name : String) :
    (table.insertAll items).spelling? name =
      (table.spelling? name).or (firstSpelling? fold items name) := by
  induction items generalizing table with
  | nil => exact Option.or_none.symm
  | cons item later ih =>
    rw [insertAll_cons, ih, spelling?_insert, Option.or_assoc]
    by_cases same : fold item.1 = fold name
    · rw [if_pos same.symm, firstSpelling?, firstSpelling?, under_cons_of_same same]
      rfl
    · rw [if_neg (Ne.symm same), firstSpelling?, firstSpelling?, under_cons_of_other same]
      rfl

theorem contains_insertAll_iff {table : Table fold α} {items : List (String × α)} {name : String} :
    (table.insertAll items).contains name = true ↔
      (∃ item ∈ items, fold item.1 = fold name) ∨ table.contains name = true := by
  rw [contains_eq_isSome, get?_insertAll, contains_eq_isSome, Option.isSome_or, Bool.or_eq_true,
    lastValue?, Option.isSome_map, List.getLast?_isSome, Ne, under_eq_nil_iff]
  simp only [not_forall, not_not, exists_prop]

section OfList
variable {items : List (String × α)} {name : String}

theorem get?_ofList (items : List (String × α)) (name : String) :
    (ofList items : Table fold α).get? name = lastValue? fold items name := by
  rw [ofList, get?_insertAll, get?_empty, Option.or_none]

theorem spelling?_ofList (items : List (String × α)) (name : String) :
    (ofList items : Table fold α).spelling? name = firstSpelling? fold items name := by
  rw [ofList, spelling?_insertAll]
  exact Option.none_or

theorem contains_ofList_iff :
    (ofList items : Table fold α).contains name = true ↔
      ∃ item ∈ items, fold item.1 = fold name := by
  rw [ofList, contains_insertAll_iff]
  exact or_iff_left Bool.false_ne_true

theorem isEmpty_ofList_iff : (ofList items : Table fold α).isEmpty = true ↔ items = [] := by
  rw [isEmpty_iff]
  constructor
  · intro none
    apply List.eq_nil_iff_forall_not_mem.mpr
    intro item member
    have found : (ofList items : Table fold α).contains item.1 = true :=
      contains_ofList_iff.mpr ⟨item, member, rfl⟩
    rw [none] at found
    cases found
  · rintro rfl
    rfl

end OfList

/-! ## Names -/

/-- Insertions add the names of keys that are new, each as it is first spelled, in the order of
these first spellings. -/
theorem names_insertAll (table : Table fold α) (items : List (String × α)) :
    (table.insertAll items).names = table.names ++
      ((items.map Prod.fst).filter fun name => !table.contains name).eraseDupsBy
        fun a b => fold a = fold b := by
  induction items generalizing table with
  | nil => simp
  | cons item later ih =>
    rw [insertAll_cons, ih, names_insert, List.map_cons]
    cases present : table.contains item.1 with
    | true =>
      have unchanged : ∀ probe,
          (table.insert item.1 item.2).contains probe = table.contains probe := by
        intro probe
        rw [contains_insert]
        by_cases same : fold probe = fold item.1
        · simp [contains_congr same, present]
        · simp [same]
      simp [unchanged, present]
    | false =>
      rw [List.filter_cons_of_pos (by simp [present]), List.eraseDupsBy_cons, List.filter_filter]
      simp [contains_insert]

theorem names_ofList (items : List (String × α)) :
    (ofList items : Table fold α).names =
      (items.map Prod.fst).eraseDupsBy fun a b => fold a = fold b := by
  have none : ∀ name, (∅ : Table fold α).contains name = false := fun _ => rfl
  rw [ofList, names_insertAll]
  simp [none]

/-- There is an entry for every key in the list. -/
theorem size_ofList (items : List (String × α)) :
    (ofList items : Table fold α).size = (items.map fun item => fold item.1).toFinset.card := by
  have distinct : (keysOf fold (ofList items : Table fold α).entries).Nodup :=
    (ofList items).distinct
  have keys : (keysOf fold (ofList items : Table fold α).entries).toFinset =
      (items.map fun item => fold item.1).toFinset := by
    ext key
    rw [List.mem_toFinset, List.mem_toFinset, List.mem_map]
    constructor
    · intro member
      obtain ⟨entry, -, rfl⟩ := List.mem_map.mp member
      exact contains_ofList_iff.mp (contains_iff_mem.mpr member)
    · rintro ⟨item, member, rfl⟩
      exact contains_iff_mem.mp (contains_ofList_iff.mpr ⟨item, member, rfl⟩)
  rw [← keys, List.toFinset_card_of_nodup distinct, keysOf, List.length_map, size]

/-! ## Entries and equivalence -/

section Entries
variable {a b table : Table fold α}

theorem stored?_eq_some_iff_parts {name : String} {entry : String × α} :
    table.stored? name = some entry ↔
      table.spelling? name = some entry.1 ∧ table.get? name = some entry.2 := by
  rw [spelling?, get?_eq]
  cases table.stored? name with
  | none => simp
  | some other => simp [Prod.ext_iff]

theorem mem_entries_iff {entry : String × α} :
    entry ∈ table.entries ↔
      table.spelling? entry.1 = some entry.1 ∧ table.get? entry.1 = some entry.2 := by
  rw [← stored?_eq_some_iff_parts, stored?_eq_some_iff, and_iff_left rfl]

omit [DecidableEq κ] in
theorem nodup_entries (table : Table fold α) : table.entries.Nodup :=
  List.Nodup.of_map _ table.distinct

/-- Tables are equivalent exactly if under every key they have the same spelling and value. -/
theorem equiv_iff :
    a.Equiv b ↔ ∀ name, a.spelling? name = b.spelling? name ∧ a.get? name = b.get? name := by
  constructor
  · intro same name
    exact ⟨congrArg (Option.map Prod.fst) (same.stored?_eq name), same.get?_eq name⟩
  · intro same
    apply (List.perm_ext_iff_of_nodup a.nodup_entries b.nodup_entries).mpr
    intro entry
    rw [mem_entries_iff, mem_entries_iff, (same entry.1).1, (same entry.1).2]

omit [DecidableEq κ] in
/-- Equivalence is what maps without an order call equality: as many entries, and each entry of the
one, exactly as spelled, in the other. -/
theorem equiv_iff_size :
    a.Equiv b ↔ a.size = b.size ∧ ∀ entry ∈ a.toList, entry ∈ b.toList := by
  constructor
  · intro same
    exact ⟨List.Perm.length_eq same, fun entry => (List.Perm.mem_iff same).mp⟩
  · rintro ⟨size, included⟩
    have subperm : a.entries.Subperm b.entries := List.subperm_of_subset a.nodup_entries included
    exact subperm.perm_of_length_le size.ge

end Entries

/-- An entry of a table built from a list is spelled as it was first inserted under its key and has
the value that was inserted last. -/
theorem mem_toList_ofList_iff {items : List (String × α)} {entry : String × α} :
    entry ∈ (ofList items : Table fold α).toList ↔
      firstSpelling? fold items entry.1 = some entry.1 ∧
        lastValue? fold items entry.1 = some entry.2 := by
  rw [toList, mem_entries_iff, spelling?_ofList, get?_ofList]

/-- Two lists build equivalent tables exactly if under every key they begin with the same spelling
and end with the same value. -/
theorem equiv_ofList_iff {first second : List (String × α)} :
    (ofList first : Table fold α).Equiv (ofList second) ↔
      ∀ name, firstSpelling? fold first name = firstSpelling? fold second name ∧
        lastValue? fold first name = lastValue? fold second name := by
  rw [equiv_iff]
  simp only [spelling?_ofList, get?_ofList]

/-- Another spelling of a name that has an entry makes no difference. -/
theorem insert_respelled {table : Table fold α} {name other : String} (value : α)
    (same : fold name = fold other) (present : table.contains name = true) :
    table.insert name value = table.insert other value := by
  have replacement : replaceValue fold name value = replaceValue fold other value := by
    funext entry
    rw [replaceValue, replaceValue, same]
  apply ext
  rw [entries_insert_of_mem value present,
    entries_insert_of_mem value ((contains_congr same).symm.trans present), replacement]

end OriginGate.Table
