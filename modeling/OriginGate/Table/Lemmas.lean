import OriginGate.Table.Basic

/-!
What each operation on a table does to look-ups, names and equivalence. An insertion answers for
the names under its key and leaves every other key alone (`get?_insert`), and equivalent tables
cannot be told apart by look-ups and stay equivalent under insertion (`Equiv.get?_eq`,
`Equiv.insert`).
-/

namespace OriginGate.Table

variable {κ : Type} {fold : String → κ} {α : Type}

@[simp] theorem names_empty : (∅ : Table fold α).names = [] := rfl

theorem isEmpty_iff {table : Table fold α} : table.isEmpty = true ↔ table = ∅ := by
  rw [isEmpty, List.isEmpty_iff]
  exact ⟨fun h => Table.ext h, fun h => h ▸ rfl⟩

variable [DecidableEq κ]

/-- The entry under the key of a name. -/
def stored? (table : Table fold α) (name : String) : Option (String × α) :=
  table.entries.find? fun entry => fold entry.1 = fold name

/-- How the entry under the key of a name is spelled. -/
def spelling? (table : Table fold α) (name : String) : Option String :=
  (table.stored? name).map Prod.fst

theorem get?_eq (table : Table fold α) (name : String) :
    table.get? name = (table.stored? name).map Prod.snd := rfl

theorem stored?_congr {table : Table fold α} {name other : String}
    (same : fold name = fold other) : table.stored? name = table.stored? other := by
  rw [stored?, stored?, same]

theorem fold_of_stored? {table : Table fold α} {name : String} {entry : String × α}
    (found : table.stored? name = some entry) : fold entry.1 = fold name := by
  simpa using List.find?_some found

@[simp] theorem get?_empty (name : String) : (∅ : Table fold α).get? name = none := rfl

theorem contains_iff_mem {table : Table fold α} {name : String} :
    table.contains name = true ↔ fold name ∈ keysOf fold table.entries := by
  simp [contains, keysOf]

/-- A name is contained exactly when looking it up finds a value. -/
theorem contains_eq_isSome (table : Table fold α) (name : String) :
    table.contains name = (table.get? name).isSome := by
  rw [Bool.eq_iff_iff]
  simp [contains, get?]

theorem contains_congr {table : Table fold α} {name other : String}
    (same : fold name = fold other) : table.contains name = table.contains other := by
  rw [contains, contains, same]

theorem entries_insert_of_mem {table : Table fold α} {name : String} (value : α)
    (present : table.contains name = true) :
    (table.insert name value).entries = table.entries.map (replaceValue fold name value) := by
  simp [insert, insertEntry, contains_iff_mem.mp present]

theorem entries_insert_of_not_mem {table : Table fold α} {name : String} (value : α)
    (absent : table.contains name = false) :
    (table.insert name value).entries = table.entries ++ [(name, value)] := by
  have missing : fold name ∉ keysOf fold table.entries := fun mem => by
    simp [contains_iff_mem.mpr mem] at absent
  simp [insert, insertEntry, missing]

/-- An insertion adds its name at the end, unless an earlier spelling stands for it. -/
theorem names_insert (table : Table fold α) (name : String) (value : α) :
    (table.insert name value).names =
      if table.contains name then table.names else table.names ++ [name] := by
  cases present : table.contains name
  · simp [names, entries_insert_of_not_mem value present]
  · simp [names, entries_insert_of_mem value present, Function.comp_def, fst_replaceValue]

private theorem stored?_insert_of_mem {table : Table fold α} {name : String} (value : α)
    (present : table.contains name = true) (probe : String) :
    (table.insert name value).stored? probe =
      (table.stored? probe).map (replaceValue fold name value) := by
  rw [stored?, entries_insert_of_mem value present, List.find?_map, stored?]
  simp only [Function.comp_def, fst_replaceValue]

/-- After an insertion, every name under its key finds the entry with the value, spelled as before
if it was there, and every other name finds what it found before. -/
theorem stored?_insert (table : Table fold α) (name probe : String) (value : α) :
    (table.insert name value).stored? probe =
      if fold probe = fold name then some ((table.spelling? name).getD name, value)
      else table.stored? probe := by
  cases found : table.stored? name with
  | none =>
    have absent : table.contains name = false := by rw [contains_eq_isSome, get?_eq, found]; rfl
    rw [stored?, entries_insert_of_not_mem value absent, List.find?_append, ← stored?]
    by_cases same : fold probe = fold name
    · simp [stored?_congr same, found, spelling?, same]
    · have other : fold name ≠ fold probe := Ne.symm same
      simp [same, other]
  | some entry =>
    have present : table.contains name = true := by rw [contains_eq_isSome, get?_eq, found]; rfl
    rw [stored?_insert_of_mem value present]
    by_cases same : fold probe = fold name
    · have key := fold_of_stored? found
      simp [stored?_congr same, found, spelling?, replaceValue, key, same]
    · rw [if_neg same]
      cases kept : table.stored? probe with
      | none => rfl
      | some other =>
        have key := fold_of_stored? kept
        simp [replaceValue, key, same]

/-- After an insertion, every name under its key finds the value and every other name finds what
it found before. -/
theorem get?_insert (table : Table fold α) (name probe : String) (value : α) :
    (table.insert name value).get? probe =
      if fold probe = fold name then some value else table.get? probe := by
  rw [get?_eq, stored?_insert, get?_eq]
  split <;> rfl

/-- An entry keeps its spelling under later insertions. -/
theorem spelling?_insert (table : Table fold α) (name probe : String) (value : α) :
    (table.insert name value).spelling? probe =
      (table.spelling? probe).or (if fold probe = fold name then some name else none) := by
  rw [spelling?, stored?_insert]
  by_cases same : fold probe = fold name
  · have again : table.spelling? probe = table.spelling? name :=
      congrArg (Option.map Prod.fst) (stored?_congr same)
    rw [if_pos same, if_pos same, again]
    cases table.spelling? name <;> rfl
  · rw [if_neg same, if_neg same, Option.or_none, spelling?]

theorem contains_insert (table : Table fold α) (name probe : String) (value : α) :
    (table.insert name value).contains probe =
      (decide (fold probe = fold name) || table.contains probe) := by
  rw [contains_eq_isSome, get?_insert, contains_eq_isSome]
  by_cases same : fold probe = fold name <;> simp [same]

@[simp] theorem isEmpty_insert (table : Table fold α) (name : String) (value : α) :
    (table.insert name value).isEmpty = false := by
  cases present : table.contains name
  · simp [isEmpty, entries_insert_of_not_mem value present]
  · rw [isEmpty, entries_insert_of_mem value present]
    cases entries : table.entries with
    | nil => simp [contains, entries] at present
    | cons => rfl

@[simp] theorem insertAll_nil (table : Table fold α) : table.insertAll [] = table := rfl

@[simp] theorem insertAll_cons (table : Table fold α) (item : String × α)
    (items : List (String × α)) :
    table.insertAll (item :: items) = (table.insert item.1 item.2).insertAll items := rfl

theorem insertAll_append (table : Table fold α) (first second : List (String × α)) :
    table.insertAll (first ++ second) = (table.insertAll first).insertAll second :=
  List.foldl_append

/-! ## Equivalence -/

omit [DecidableEq κ] in
theorem Equiv.refl (table : Table fold α) : table.Equiv table :=
  List.Perm.refl _

omit [DecidableEq κ] in
theorem Equiv.symm {a b : Table fold α} (h : a.Equiv b) : b.Equiv a :=
  List.Perm.symm h

omit [DecidableEq κ] in
theorem Equiv.trans {a b c : Table fold α} (first : a.Equiv b) (second : b.Equiv c) : a.Equiv c :=
  List.Perm.trans first second

omit [DecidableEq κ] in
theorem Equiv.isEmpty_eq {a b : Table fold α} (h : a.Equiv b) : a.isEmpty = b.isEmpty := by
  have length := List.Perm.length_eq h
  rw [isEmpty, isEmpty]
  cases ha : a.entries <;> cases hb : b.entries <;> simp_all

omit [DecidableEq κ] in
/-- Behind the first entry under a key there is no other. -/
theorem fold_ne_of_mem_rest {first : String × α} {rest : List (String × α)} {name : String}
    (distinct : (keysOf fold (first :: rest)).Nodup) (same : fold first.1 = fold name) :
    ∀ entry ∈ rest, fold entry.1 ≠ fold name := by
  rw [keysOf, List.map_cons, List.nodup_cons] at distinct
  intro entry member key
  exact distinct.1 (List.mem_map.mpr ⟨entry, member, key.trans same.symm⟩)

/-- The entry that is found is under the key, and no other entry is. -/
theorem stored?_eq_some_iff {table : Table fold α} {name : String} {entry : String × α} :
    table.stored? name = some entry ↔ entry ∈ table.entries ∧ fold entry.1 = fold name := by
  rw [stored?]
  have distinct : (keysOf fold table.entries).Nodup := table.distinct
  revert distinct
  generalize table.entries = entries
  intro distinct
  induction entries with
  | nil => simp
  | cons first rest ih =>
    rw [List.mem_cons]
    by_cases same : fold first.1 = fold name
    · rw [List.find?_cons_of_pos (by simpa using same), Option.some.injEq]
      constructor
      · rintro rfl
        exact ⟨.inl rfl, same⟩
      · rintro ⟨rfl | mem, key⟩
        · rfl
        · exact absurd key (fold_ne_of_mem_rest distinct same entry mem)
    · rw [List.find?_cons_of_neg (by simpa using same)]
      refine (ih distinct.of_cons).trans ?_
      constructor
      · rintro ⟨mem, key⟩
        exact ⟨.inr mem, key⟩
      · rintro ⟨rfl | mem, key⟩
        · exact absurd key same
        · exact ⟨mem, key⟩

/-- Equivalent tables have the same entry under every key. -/
theorem Equiv.stored?_eq {a b : Table fold α} (h : a.Equiv b) (name : String) :
    a.stored? name = b.stored? name := by
  apply Option.ext
  intro entry
  rw [stored?_eq_some_iff, stored?_eq_some_iff, List.Perm.mem_iff h]

/-- Equivalent tables answer every look-up alike. -/
theorem Equiv.get?_eq {a b : Table fold α} (h : a.Equiv b) (name : String) :
    a.get? name = b.get? name :=
  congrArg (Option.map Prod.snd) (h.stored?_eq name)

theorem Equiv.contains_eq {a b : Table fold α} (h : a.Equiv b) (name : String) :
    a.contains name = b.contains name := by
  rw [contains_eq_isSome, contains_eq_isSome, h.get?_eq]

/-- Equivalent tables stay equivalent under one insertion. -/
theorem Equiv.insert {a b : Table fold α} (h : a.Equiv b) (name : String) (value : α) :
    (a.insert name value).Equiv (b.insert name value) := by
  cases present : a.contains name
  · rw [Equiv, entries_insert_of_not_mem value present,
      entries_insert_of_not_mem value (h.contains_eq name ▸ present)]
    exact List.Perm.append_right _ h
  · rw [Equiv, entries_insert_of_mem value present,
      entries_insert_of_mem value (h.contains_eq name ▸ present)]
    exact List.Perm.map _ h

end OriginGate.Table
