import OriginGate.Table.History

/-! Insertions in rounds. A table is given by its names and by what they find, so that a round which is
made twice in a row is as good as made once. Where every round sets names in one order, from the
first of them on, the names that are new stand in this order, whichever round brought them. -/
namespace OriginGate.Table
variable {κ : Type} [DecidableEq κ] {fold : String → κ} {α : Type}

/-! ## Names and values -/

/-- The entries are the names with what they find. -/
theorem entries_eq (table : Table fold α) :
    table.entries = table.names.filterMap fun name =>
      (table.get? name).map fun value => (name, value) := by
  have found : ∀ entry ∈ table.entries,
      ((table.get? entry.1).map fun value => (entry.1, value)) = some entry := by
    intro entry member
    rw [(mem_entries_iff.mp member).2]
    rfl
  rw [names, List.filterMap_map]
  exact (List.filterMap_some.symm.trans (List.filterMap_congr found).symm)

/-- Tables with the same names in the same order that answer alike are one table. -/
theorem ext_of_names {a b : Table fold α} (names : a.names = b.names)
    (values : ∀ name, a.get? name = b.get? name) : a = b := by
  apply ext
  rw [entries_eq a, entries_eq b, names]
  simp only [values]

/-- A list that was inserted changes nothing when it is inserted again. -/
theorem insertAll_insertAll_self (table : Table fold α) (items : List (String × α)) :
    (table.insertAll items).insertAll items = table.insertAll items := by
  apply ext_of_names
  · have known : (items.map Prod.fst).filter (fun name => !(table.insertAll items).contains name) =
        [] := by
      rw [List.filter_eq_nil_iff]
      intro name member
      obtain ⟨item, listed, rfl⟩ := List.mem_map.mp member
      rw [contains_insertAll_iff.mpr (.inl ⟨item, listed, rfl⟩)]
      exact Bool.false_ne_true
    rw [names_insertAll, known, List.eraseDupsBy_nil, List.append_nil]
  · intro name
    rw [get?_insertAll, get?_insertAll]
    cases lastValue? fold items name <;> rfl

/-! ## Rounds -/

/-- What rounds of insertions leave under a name is what the last round with this name sets. -/
theorem lastValue?_flatMap {β : Type} (round : β → List (String × α)) (rounds : List β)
    (name : String) :
    lastValue? fold (rounds.flatMap round) name =
      (rounds.filterMap fun item => lastValue? fold (round item) name).getLast? := by
  rw [lastValue?, under, List.filter_flatMap, List.getLast?_flatMap, List.map_findSome?,
    List.getLast?_filterMap]
  rfl

/-- A list loses nothing to a search for repetitions if there are none. -/
theorem eraseDupsBy_eq_self {r : α → α → Bool} {items : List α}
    (distinct : items.Pairwise fun a b => r b a = false) : items.eraseDupsBy r = items := by
  induction distinct with
  | nil => rfl
  | cons apart _ ih =>
    rw [List.eraseDupsBy_cons, List.filter_eq_self.mpr (by simpa using apart), ih]

/-- Names that are all different are added but for those that are there already. -/
theorem names_insertAll_of_nodup (table : Table fold α) {items : List (String × α)}
    (distinct : (keysOf fold items).Nodup) :
    (table.insertAll items).names =
      table.names ++ (items.map Prod.fst).filter fun name => !table.contains name := by
  have apart : (items.map Prod.fst).Pairwise fun a b => decide (fold b = fold a) = false := by
    rw [keysOf, List.Nodup, List.pairwise_map] at distinct
    rw [List.pairwise_map]
    exact distinct.imp fun different => decide_eq_false different.symm
  rw [names_insertAll, eraseDupsBy_eq_self (apart.filter _)]

end OriginGate.Table

namespace OriginGate.ExactTable
open Table
variable {α : Type}

/-- Of the names in an order that are there at last, those of the first round come before those that
later rounds bring. -/
private theorem filter_new_append {front rest : List String} (distinct : (front ++ rest).Nodup)
    {before first last : String → Bool}
    (reached : ∀ name, first name = true ↔ name ∈ front ∨ before name = true)
    (kept : ∀ name, first name = true → last name = true) :
    front.filter (fun name => !before name) ++
        (front ++ rest).filter (fun name => last name && !first name) =
      (front ++ rest).filter fun name => last name && !before name := by
  obtain ⟨-, -, apart⟩ := List.nodup_append.mp distinct
  have known : ∀ name ∈ front, first name = true := fun name member =>
    (reached name).mpr (.inl member)
  have nothing : front.filter (fun name => last name && !first name) = [] := by
    rw [List.filter_eq_nil_iff]
    intro name member
    simp [known name member]
  have added : front.filter (fun name => last name && !before name) =
      front.filter fun name => !before name :=
    List.filter_congr fun name member => by rw [kept name (known name member), Bool.true_and]
  have later : rest.filter (fun name => last name && !first name) =
      rest.filter fun name => last name && !before name := by
    apply List.filter_congr
    intro name member
    have same : first name = before name := by
      rw [Bool.eq_iff_iff, reached]
      exact or_iff_right fun given => apart name given name member rfl
    rw [same]
  rw [List.filter_append, List.filter_append, nothing, added, later, List.nil_append]

/-- If every round begins the same list of names, the names that are new stand in the order of this
list. -/
theorem names_insertAll_rounds (table : ExactTable α) {order : List String} (distinct : order.Nodup)
    {rounds : List (List (String × α))}
    (begins : ∀ round ∈ rounds, round.map Prod.fst <+: order) :
    (table.insertAll rounds.flatten).names = table.names ++ order.filter fun name =>
      (table.insertAll rounds.flatten).contains name && !table.contains name := by
  induction rounds generalizing table with
  | nil => simp
  | cons round later ih =>
    obtain ⟨rest, rfl⟩ := begins round List.mem_cons_self
    have once : (round.map Prod.fst).Nodup := (List.nodup_append.mp distinct).1
    have reached : ∀ name, (table.insertAll round).contains name = true ↔
        name ∈ round.map Prod.fst ∨ table.contains name = true := by
      intro name
      rw [contains_insertAll_iff, List.mem_map]
      rfl
    rw [List.flatten_cons, insertAll_append,
      ih _ (fun other member => begins other (List.mem_cons_of_mem _ member)),
      names_insertAll_of_nodup table once, List.append_assoc,
      filter_new_append distinct reached fun name known => contains_insertAll_iff.mpr (.inr known)]

end OriginGate.ExactTable
