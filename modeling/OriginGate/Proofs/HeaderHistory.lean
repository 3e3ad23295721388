import OriginGate.Response.Basic
import OriginGate.Table.Search
import OriginGate.Text.Case

/-! Response headers after any list of settings. Names that differ in ASCII case are one header: it
is spelled as it was first set and has the value it was set to last, wherever other headers were set
in between, and to keep them in a store that tells spellings apart and is searched makes no
difference. Two lists of settings give equal headers exactly if they agree in these spellings and
values. -/
namespace OriginGate.Headers
open Table Text

theorem sameName_eq : sameName = fun a b => decide (fold a = fold b) := by
  funext a b
  rw [Bool.eq_iff_iff, sameName_iff, decide_eq_true_iff]

/-- A store of exact names, searched from the front for a name up to ASCII case, comes to a map from
names up to ASCII case, in the order in which these were first set. No two entries have the same
name but for case, there is one for every name that was set, and it is spelled as in its first
setting and has the value of its last one. A look-up finds that value under any spelling, and
nothing under a name that was never set; one more setting is found under its own name and changes
what no other name finds. -/
theorem last_value_stands_under_first_spelling (sets : List (String × String)) :
    let headers : Headers := ofList sets
    let store := ExactTable.putAll fold ∅ sets
    store.Keeps headers ∧
    (∀ query, ExactTable.search? fold store query = headers.get? query) ∧
    (∀ query, (ExactTable.position? fold store query).isSome = headers.contains query) ∧
    headers.names.Pairwise (fun a b => ¬SameButCase a b) ∧
    headers.toList.map Prod.fst = (sets.map Prod.fst).eraseDupsBy sameName ∧
    (∀ entry ∈ headers.toList, firstSpelling? fold sets entry.1 = some entry.1 ∧
      lastValue? fold sets entry.1 = some entry.2) ∧
    (∀ query, headers.get? query = lastValue? fold sets query) ∧
    (∀ query, headers.get? query = none ↔ ∀ set ∈ sets, ¬SameButCase set.1 query) ∧
    (∀ query, headers.contains query = (headers.get? query).isSome) ∧
    headers.size = (sets.map fun set => fold set.1).toFinset.card ∧
    (headers.isEmpty = true ↔ sets = []) ∧
    (∀ name value query, (ofList (sets ++ [(name, value)]) : Headers).get? query =
      if SameButCase query name then some value else headers.get? query) := by
  intro headers store
  have keeps : store.Keeps headers := ExactTable.keeps_putAll sets
  refine ⟨keeps, keeps.search?_eq, keeps.isSome_position?, ?_, ?_,
    fun entry => mem_toList_ofList_iff.mp, get?_ofList sets, ?_, contains_eq_isSome _,
    size_ofList sets, isEmpty_ofList_iff, ?_⟩
  · have distinct := headers.distinct
    rw [List.Nodup, List.pairwise_map] at distinct
    rw [names, List.pairwise_map]
    exact distinct.imp fun different same => different (fold_eq_fold_iff.mpr same)
  · rw [sameName_eq]
    exact names_ofList sets
  · intro query
    rw [get?_ofList, lastValue?, Option.map_eq_none_iff, List.getLast?_eq_none_iff,
      under_eq_nil_iff]
    simp only [Ne, fold_eq_fold_iff]
  · intro name value query
    rw [ofList, insertAll_append, insertAll_cons, insertAll_nil, get?_insert]
    simp only [fold_eq_fold_iff]
    rfl

/-- A header that is set again in another case keeps its place and spelling. -/
theorem last_value_stands_under_first_spelling_of_vary :
    let sets := [("Vary", "Origin"), ("X-Trace", "1"), ("vary", "Accept")]
    let headers : Headers := ofList sets
    ("Vary", "Accept") ∈ headers.toList ∧ firstSpelling? fold sets "Vary" = some "Vary" ∧
      headers.get? "VARY" = some "Accept" ∧ headers.size = 2 := by
  intro sets headers
  obtain ⟨-, -, -, -, -, entries, found, -, -, size, -⟩ :=
    last_value_stands_under_first_spelling sets
  have member : ("Vary", "Accept") ∈ headers.toList := by decide
  refine ⟨member, (entries _ member).1, (found "VARY").trans ?_, size.trans ?_⟩
  · decide
  · decide

/-- Headers are equal, whatever their order, exactly if every name up to ASCII case was set in both
lists or in neither, first in the same spelling and last to the same value. So it makes no
difference in which order settings of different names come, nor how a name is spelled when it is set
again; but a name that is first set in another spelling is another entry. -/
theorem equal_by_first_spelling_and_last_value (first second : List (String × String)) :
    ((ofList first : Headers).Equiv (ofList second) ↔ ∀ query,
      ((∃ set ∈ first, SameButCase set.1 query) ↔ ∃ set ∈ second, SameButCase set.1 query) ∧
      firstSpelling? fold first query = firstSpelling? fold second query ∧
      lastValue? fold first query = lastValue? fold second query) ∧
    ((ofList first : Headers).Equiv (ofList second) ↔
      (ofList first : Headers).size = (ofList second : Headers).size ∧
      ∀ entry ∈ (ofList first : Headers).toList, entry ∈ (ofList second : Headers).toList) ∧
    ((∀ query, under fold first query = under fold second query) →
      (ofList first : Headers).Equiv (ofList second)) ∧
    (∀ before name other value later, SameButCase name other →
      (∃ set ∈ before, SameButCase set.1 name) →
      (ofList (before ++ (name, value) :: later) : Headers) =
        ofList (before ++ (other, value) :: later)) ∧
    (∀ before name other value valueToo later laterToo, SameButCase name other → name ≠ other →
      (∀ set ∈ before, ¬SameButCase set.1 name) →
      ¬(ofList (before ++ (name, value) :: later) : Headers).Equiv
        (ofList (before ++ (other, valueToo) :: laterToo))) := by
  have occurs : ∀ {sets : List (String × String)} {query : String},
      (∃ set ∈ sets, SameButCase set.1 query) ↔ (firstSpelling? fold sets query).isSome := by
    intro sets query
    rw [firstSpelling?, Option.isSome_map, List.isSome_head?, Ne, under_eq_nil_iff]
    simp only [not_forall, not_not, exists_prop, fold_eq_fold_iff]
  refine ⟨?_, equiv_iff_size, ?_, ?_, ?_⟩
  · rw [equiv_ofList_iff]
    refine forall_congr' fun query => ⟨fun same => ⟨?_, same⟩, And.right⟩
    rw [occurs, occurs, same.1]
  · intro same
    apply equiv_ofList_iff.mpr
    intro query
    rw [firstSpelling?, firstSpelling?, lastValue?, lastValue?, same]
    exact ⟨rfl, rfl⟩
  · intro before name other value later same given
    have present : (ofList before : Headers).contains name = true := by
      apply contains_ofList_iff.mpr
      simpa only [fold_eq_fold_iff] using given
    have respelled := insert_respelled value (fold_eq_fold_iff.mpr same) present
    rw [ofList, ofList, insertAll_append, insertAll_append, insertAll_cons, insertAll_cons]
    exact congrArg (fun headers : Headers => headers.insertAll later) respelled
  · intro before name other value valueToo later laterToo same differ none equal
    have key := fold_eq_fold_iff.mpr same
    have unset : ∀ set ∈ before, fold set.1 ≠ fold name := fun set member =>
      fun given => none set member (fold_eq_fold_iff.mp given)
    have spellings := (equiv_ofList_iff.mp equal name).1
    rw [firstSpelling?_split unset rfl, firstSpelling?_split unset key.symm] at spellings
    exact differ (Option.some.inj spellings)

/-- One and the same header set first as `Vary`, in two orders of settings and with another spelling
in between; and the same settings with the two spellings exchanged. -/
theorem equal_by_first_spelling_and_last_value_of_vary :
    let sets := [("Vary", "Origin"), ("X-Trace", "1"), ("vary", "Accept")]
    let headers : Headers := ofList sets
    headers.Equiv (ofList [("X-Trace", "1"), ("Vary", "Origin"), ("vary", "Accept")]) ∧
      headers = ofList [("Vary", "Origin"), ("X-Trace", "1"), ("VARY", "Accept")] ∧
      ¬headers.Equiv (ofList [("vary", "Origin"), ("X-Trace", "1"), ("Vary", "Accept")]) := by
  intro sets headers
  obtain ⟨-, -, reordered, respelled, exchanged⟩ := equal_by_first_spelling_and_last_value sets
    [("X-Trace", "1"), ("Vary", "Origin"), ("vary", "Accept")]
  refine ⟨reordered ?_, ?_, ?_⟩
  · intro query
    by_cases trace : fold "X-Trace" = fold query
    · have other : fold "Vary" ≠ fold query := fun same =>
        absurd (same.trans trace.symm) (by decide)
      simp [sets, under, List.filter_cons, trace, other]
    · simp [sets, under, List.filter_cons, trace]
  · exact respelled [("Vary", "Origin"), ("X-Trace", "1")] "vary" "VARY" "Accept" [] (by decide)
      ⟨("Vary", "Origin"), by decide, by decide⟩
  · exact exchanged [] "Vary" "vary" "Origin" "Origin" _ _ (by decide) (by decide) (by decide)

end OriginGate.Headers
