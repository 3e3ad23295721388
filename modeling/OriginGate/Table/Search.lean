import OriginGate.Table.History

/-! A table that merges names, kept in one that does not. The names stand as they were first spelled
in an exact table, and a name is searched for from the front, up to the first entry with its key.
`keeps_putAll` says that whatever is put there comes to what the merging table holds: no two entries
ever have one key, so that the first entry found is the only one. -/
namespace OriginGate.ExactTable
variable {κ : Type} {fold : String → κ} {α : Type}

/-- Gives the entry at a place a new value. -/
def setAt (store : ExactTable α) (place : Nat) (value : α) : ExactTable α where
  entries := store.entries.modify place fun entry => (entry.1, value)
  distinct := by
    have names : (store.entries.modify place fun entry => (entry.1, value)).map
        (fun entry => id entry.1) = store.entries.map fun entry => id entry.1 := by
      apply List.ext_getElem?
      intro index
      rw [List.getElem?_map, List.getElem?_map, List.getElem?_modify]
      cases store.entries[index]? with
      | none => rfl
      | some entry => by_cases here : place = index <;> simp [here]
    exact names ▸ store.distinct

/-- A store keeps a table if it has the same entries in the same order. -/
def Keeps (store : ExactTable α) (table : Table fold α) : Prop :=
  store.toList = table.toList

variable [DecidableEq κ]

/-- Where the first entry stands whose name has the same key. -/
def position? (fold : String → κ) (store : ExactTable α) (name : String) : Option Nat :=
  store.entries.findIdx? fun entry => fold entry.1 = fold name

/-- The value at the place where a name is found. -/
def search? (fold : String → κ) (store : ExactTable α) (name : String) : Option α :=
  (position? fold store name).bind fun place => store.entries[place]?.map Prod.snd

/-- Gives the entry that a name finds a new value, and makes an entry for a name that finds none. -/
def put (fold : String → κ) (store : ExactTable α) (name : String) (value : α) : ExactTable α :=
  match position? fold store name with
  | some place => store.setAt place value
  | none => store.insert name value

def putAll (fold : String → κ) (store : ExactTable α) (items : List (String × α)) : ExactTable α :=
  items.foldl (fun store item => put fold store item.1 item.2) store

/-- Where one entry at most has a key, a change of the first with that key changes all of them. -/
theorem modify_first {entries : List (String × α)} {name : String} {place : Nat}
    (distinct : (Table.keysOf fold entries).Nodup)
    (found : entries.findIdx? (fun entry => fold entry.1 = fold name) = some place) (value : α) :
    (entries.modify place fun entry => (entry.1, value)) =
      entries.map (Table.replaceValue fold name value) := by
  induction entries generalizing place with
  | nil => cases found
  | cons first rest ih =>
    rw [List.findIdx?_cons] at found
    rw [List.map_cons, Table.replaceValue]
    by_cases same : fold first.1 = fold name
    · rw [if_pos (by simpa using same), Option.some.injEq] at found
      have others : ∀ entry ∈ rest, Table.replaceValue fold name value entry = entry := by
        intro entry member
        exact if_neg (Table.fold_ne_of_mem_rest distinct same entry member)
      rw [← found, List.modify_zero_cons, if_pos same, List.map_congr_left others, List.map_id']
    · rw [if_neg (by simpa using same), Option.map_eq_some_iff] at found
      obtain ⟨later, found, rfl⟩ := found
      rw [List.modify_succ_cons, if_neg same, ih distinct.of_cons found]

section Keeps
variable {store : ExactTable α} {table : Table fold α}

theorem Keeps.search?_eq (keeps : store.Keeps table) (name : String) :
    search? fold store name = table.get? name := by
  have entries : store.entries = table.entries := keeps
  rw [Table.get?, List.find?_eq_bind_findIdx?_getElem?, ← entries, search?, position?,
    Option.map_bind]
  rfl

theorem Keeps.isSome_position? (keeps : store.Keeps table) (name : String) :
    (position? fold store name).isSome = table.contains name := by
  have entries : store.entries = table.entries := keeps
  rw [position?, List.findIdx?_isSome, entries, Table.contains]

/-- What is put in the store is inserted in the table. -/
theorem Keeps.put (keeps : store.Keeps table) (name : String) (value : α) :
    (put fold store name value).Keeps (table.insert name value) := by
  have entries : store.entries = table.entries := keeps
  have present := keeps.isSome_position? name
  cases found : position? fold store name with
  | none =>
    rw [found] at present
    have absent : store.contains name = false := by
      rw [position?, List.findIdx?_eq_none_iff] at found
      rw [Table.contains, List.any_eq_false]
      intro entry member equal
      have spelled : entry.1 = name := by simpa using equal
      simpa [spelled] using found entry member
    rw [Keeps, ExactTable.put, found, Table.toList, Table.toList,
      Table.entries_insert_of_not_mem value absent,
      Table.entries_insert_of_not_mem value present.symm, entries]
  | some place =>
    rw [found] at present
    rw [position?, entries] at found
    rw [Keeps, ExactTable.put, position?, entries, found, Table.toList, Table.toList,
      Table.entries_insert_of_mem value present.symm, ← modify_first table.distinct found value,
      ← entries]
    rfl

theorem Keeps.putAll (keeps : store.Keeps table) (items : List (String × α)) :
    (putAll fold store items).Keeps (table.insertAll items) := by
  induction items generalizing store table with
  | nil => exact keeps
  | cons item later ih => exact ih (keeps.put item.1 item.2)

end Keeps

/-- What a list puts in an empty store is the table that the list builds. -/
theorem keeps_putAll (items : List (String × α)) :
    (putAll fold ∅ items).Keeps (Table.ofList items : Table fold α) := by
  have empty : (∅ : ExactTable α).Keeps (∅ : Table fold α) := rfl
  exact empty.putAll items

end OriginGate.ExactTable
