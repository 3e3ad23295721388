/-!
Ordered tables from names to values. Two names that `fold` takes to one key are one entry, so
`Table id` distinguishes names exactly and a coarser `fold` merges spellings. An entry keeps the
place and the spelling of its first insertion, and a later insertion replaces its value alone.
-/

namespace OriginGate

/-- Entries in order of first insertion, no two of them under one key. -/
structure Table {κ : Type} (fold : String → κ) (α : Type) where
  /-- Names as first spelled, with their current values. -/
  entries : List (String × α)
  /-- Names of different entries have different keys. -/
  distinct : (entries.map fun entry => fold entry.1).Nodup

/-- Tables whose names are compared exactly. -/
abbrev ExactTable (α : Type) := Table (id : String → String) α

namespace Table

variable {κ : Type} {fold : String → κ} {α : Type}

/-- The keys of a list of entries, in order. -/
def keysOf (fold : String → κ) (entries : List (String × α)) : List κ :=
  entries.map fun entry => fold entry.1

@[ext] theorem ext {a b : Table fold α} (same : a.entries = b.entries) : a = b := by
  cases a; cases b; cases same; rfl

instance [DecidableEq α] : DecidableEq (Table fold α) := fun a b =>
  if same : a.entries = b.entries then isTrue (ext same)
  else isFalse fun equal => same (congrArg entries equal)

/-- The table without entries. -/
def empty : Table fold α :=
  ⟨[], List.Pairwise.nil⟩

instance : EmptyCollection (Table fold α) := ⟨empty⟩

instance : Inhabited (Table fold α) := ⟨∅⟩

/-- The entries as a list, in order of first insertion. -/
def toList (table : Table fold α) : List (String × α) :=
  table.entries

/-- The names as first spelled, in order of first insertion. -/
def names (table : Table fold α) : List String :=
  table.entries.map Prod.fst

/-- The number of entries. -/
def size (table : Table fold α) : Nat :=
  table.entries.length

/-- Whether there is no entry. -/
def isEmpty (table : Table fold α) : Bool :=
  table.entries.isEmpty

/-- Two tables are equivalent when they hold the same entries, spelling included, in any order. -/
def Equiv (a b : Table fold α) : Prop :=
  a.entries.Perm b.entries

instance [DecidableEq α] (a b : Table fold α) : Decidable (a.Equiv b) :=
  inferInstanceAs (Decidable (a.entries.Perm b.entries))

variable [DecidableEq κ]

/-- The value of the entry whose name has the same key as `name`. -/
def get? (table : Table fold α) (name : String) : Option α :=
  (table.entries.find? fun entry => fold entry.1 = fold name).map Prod.snd

/-- Whether some entry's name has the same key as `name`. -/
def contains (table : Table fold α) (name : String) : Bool :=
  table.entries.any fun entry => fold entry.1 = fold name

/-- Gives the entry of `name` a new value. Its name and place stay. -/
def replaceValue (fold : String → κ) (name : String) (value : α) (entry : String × α) :
    String × α :=
  if fold entry.1 = fold name then (entry.1, value) else entry

/-- The entries after an insertion: the value is replaced if `name` has an entry, and otherwise
the entry is added at the end. -/
def insertEntry (fold : String → κ) (name : String) (value : α) (entries : List (String × α)) :
    List (String × α) :=
  if fold name ∈ keysOf fold entries then entries.map (replaceValue fold name value)
  else entries ++ [(name, value)]

theorem fst_replaceValue (name : String) (value : α) (entry : String × α) :
    (replaceValue fold name value entry).1 = entry.1 := by
  unfold replaceValue
  split <;> rfl

/-- Replacing values leaves the keys as they are. -/
theorem keysOf_map_replaceValue (name : String) (value : α) (entries : List (String × α)) :
    keysOf fold (entries.map (replaceValue fold name value)) = keysOf fold entries := by
  simp [keysOf, Function.comp_def, fst_replaceValue]

theorem nodup_keysOf_insertEntry {entries : List (String × α)} (name : String) (value : α)
    (distinct : (keysOf fold entries).Nodup) :
    (keysOf fold (insertEntry fold name value entries)).Nodup := by
  unfold insertEntry
  split
  · rwa [keysOf_map_replaceValue]
  · rename_i absent
    rw [keysOf, List.map_append, List.nodup_append]
    refine ⟨distinct, by simp, ?_⟩
    rintro key mem other single rfl
    simp only [List.map_cons, List.map_nil, List.mem_singleton] at single
    exact absent (single ▸ mem)

/-- Stores a value under a name. A name with an entry keeps that entry's spelling and place. -/
def insert (table : Table fold α) (name : String) (value : α) : Table fold α :=
  ⟨insertEntry fold name value table.entries, nodup_keysOf_insertEntry name value table.distinct⟩

/-- Stores a list of names and values, one after another. -/
def insertAll (table : Table fold α) (items : List (String × α)) : Table fold α :=
  items.foldl (fun table item => table.insert item.1 item.2) table

/-- The table that a list of insertions builds from nothing. -/
def ofList (items : List (String × α)) : Table fold α :=
  insertAll ∅ items

end Table
end OriginGate
