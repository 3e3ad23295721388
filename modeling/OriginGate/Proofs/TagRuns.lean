import OriginGate.Request.Tagging
import OriginGate.Table.Rounds

/-! A request that is tagged again and again. Every kind that the standard tagger is told begins one and
the same list of attributes, and what it sets overrules what was set before; nothing is ever taken
away. So the attributes in the end are told from the kinds alone: the flag goes by the last of them,
the rest by the last one that has a use for it. -/
namespace OriginGate
open Table

/-! ## The last of a list that has a property -/

section Last
variable {α β : Type} {P : α → Prop} [DecidablePred P]

theorem getLast?_filterMap_ite (f : α → β) (items : List α) :
    (items.filterMap fun item => if P item then some (f item) else none).getLast? =
      (items.filter P).getLast?.map f := by
  rw [← List.getLast?_map, ← List.filterMap_eq_map', List.filterMap_filter]
  simp only [decide_eq_true_eq]

/-- Where only one value is ever set, it does not matter which item sets it last. -/
theorem getLast?_filterMap_const (value : β) (items : List α) :
    (items.filterMap fun item => if P item then some value else none).getLast? =
      if ∃ item ∈ items, P item then some value else none := by
  rw [getLast?_filterMap_ite]
  by_cases given : ∃ item ∈ items, P item
  · obtain ⟨item, member, holds⟩ := given
    have kept : item ∈ items.filter P := List.mem_filter.mpr ⟨member, decide_eq_true holds⟩
    rw [if_pos ⟨item, member, holds⟩,
      List.getLast?_eq_some_getLast (List.ne_nil_of_mem kept), Option.map_some]
  · have nothing : items.filter P = [] := by
      rw [List.filter_eq_nil_iff]
      exact fun item member holds => given ⟨item, member, of_decide_eq_true holds⟩
    rw [if_neg given, nothing]
    rfl

/-- The last item of all, if it has the property, is the last with the property. -/
theorem getLast?_filter_of_getLast? {items : List α} {last : α} (ends : items.getLast? = some last)
    (holds : P last) : (items.filter P).getLast? = some last := by
  obtain ⟨before, rfl⟩ := List.getLast?_eq_some_iff.mp ends
  have kept : [last].filter P = [last] := List.filter_cons_of_pos (decide_eq_true holds)
  rw [List.filter_append, kept]
  exact List.getLast?_concat

end Last

/-! ## Tagging with one kind after another -/

/-- A request after a tagger has been told one kind after another. -/
def Tagger.tagAll (tagger : Tagger) (request : Request) (kinds : List Kind) : Request :=
  kinds.foldl tagger request

namespace AttributeName

/-- The attributes that the standard tagger sets, in the order in which it does. -/
def all : List String := [isCrossOrigin, origin, kind, headers]

end AttributeName

/-- What the standard tagger sets an attribute to for a kind, if it does. -/
def tag? (request : Request) (name : String) (kind : Kind) : Option String :=
  lastValue? id (tagsOf request kind) name

section Tag
variable {request : Request}

theorem tag?_isCrossOrigin : tag? request AttributeName.isCrossOrigin =
    fun kind => some (if kind = .other then "false" else "true") := by
  funext kind
  cases kind <;> rfl

theorem tag?_origin : tag? request AttributeName.origin =
    fun kind => if kind ≠ .other then some (request.origin.getD "") else none := by
  funext kind
  cases kind <;> rfl

theorem tag?_kind : tag? request AttributeName.kind =
    fun kind => if kind ≠ .other then some kind.label else none := by
  funext kind
  cases kind <;> rfl

theorem tag?_headers : tag? request AttributeName.headers =
    fun kind => if kind = .preflight then some (request.requestHeaders.getD "") else none := by
  funext kind
  cases kind <;> rfl

/-- The tags for a kind begin the list of all tags. -/
theorem tagsOf_begins (request : Request) (kind : Kind) :
    (tagsOf request kind).map Prod.fst <+: AttributeName.all := by
  cases kind with
  | actual => exact ⟨[AttributeName.headers], rfl⟩
  | preflight => exact ⟨[], rfl⟩
  | other => exact ⟨[AttributeName.origin, AttributeName.kind, AttributeName.headers], rfl⟩

theorem tag?_of_not_mem {name : String} (foreign : name ∉ AttributeName.all) :
    tag? request name = fun _ => none := by
  funext kind
  have nothing : under id (tagsOf request kind) name = [] := by
    rw [under_eq_nil_iff]
    rintro item member rfl
    exact foreign ((tagsOf_begins request kind).subset (List.mem_map_of_mem member))
  rw [tag?, lastValue?, nothing]
  rfl

end Tag

namespace Tagger
variable {request : Request} {kinds : List Kind}

/-- The standard tagger reads nothing that it writes, so that its tags for several kinds are those
for each of them, in order. -/
theorem tagAll_standard (request : Request) (kinds : List Kind) :
    standard.tagAll request kinds = request.setAttributes (kinds.flatMap (tagsOf request)) := by
  induction kinds generalizing request with
  | nil => rfl
  | cons kind later ih =>
    have untouched : tagsOf (standard request kind) = tagsOf request := rfl
    rw [tagAll, List.foldl_cons, ← tagAll, ih, untouched, List.flatMap_cons, Request.setAttributes,
      Request.setAttributes, insertAll_append]
    rfl

/-- An attribute is in the end what the last kind that sets it has set it to. -/
theorem attribute?_tagAll (request : Request) (kinds : List Kind) (name : String) :
    (standard.tagAll request kinds).attribute? name =
      (kinds.filterMap (tag? request name)).getLast?.or (request.attribute? name) := by
  rw [tagAll_standard, Request.attribute?, Request.setAttributes, get?_insertAll, lastValue?_flatMap]
  rfl

theorem isCrossOrigin_tagAll {last : Kind} (ends : kinds.getLast? = some last) :
    (standard.tagAll request kinds).attribute? AttributeName.isCrossOrigin =
      some (if last = .other then "false" else "true") := by
  rw [attribute?_tagAll, tag?_isCrossOrigin, List.filterMap_eq_map', List.getLast?_map, ends]
  rfl

theorem origin_tagAll :
    (standard.tagAll request kinds).attribute? AttributeName.origin =
      if ∃ kind ∈ kinds, kind ≠ .other then some (request.origin.getD "")
      else request.attribute? AttributeName.origin := by
  rw [attribute?_tagAll, tag?_origin, getLast?_filterMap_const]
  split <;> rfl

theorem kind_tagAll :
    (standard.tagAll request kinds).attribute? AttributeName.kind =
      ((kinds.filter (· ≠ .other)).getLast?.map Kind.label).or
        (request.attribute? AttributeName.kind) := by
  rw [attribute?_tagAll, tag?_kind, getLast?_filterMap_ite]

theorem headers_tagAll :
    (standard.tagAll request kinds).attribute? AttributeName.headers =
      if .preflight ∈ kinds then some (request.requestHeaders.getD "")
      else request.attribute? AttributeName.headers := by
  rw [attribute?_tagAll, tag?_headers, getLast?_filterMap_const]
  simp only [exists_eq_right]
  split <;> rfl

theorem attribute?_tagAll_of_not_mem {name : String} (foreign : name ∉ AttributeName.all) :
    (standard.tagAll request kinds).attribute? name = request.attribute? name := by
  rw [attribute?_tagAll, tag?_of_not_mem foreign, List.filterMap_none]
  rfl

theorem names_tagAll (request : Request) (kinds : List Kind) :
    (standard.tagAll request kinds).attributes.names = request.attributes.names ++
      AttributeName.all.filter fun name =>
        (standard.tagAll request kinds).attributes.contains name &&
          !request.attributes.contains name := by
  have begins : ∀ tags ∈ kinds.map (tagsOf request), tags.map Prod.fst <+: AttributeName.all := by
    intro tags member
    obtain ⟨kind, -, rfl⟩ := List.mem_map.mp member
    exact tagsOf_begins request kind
  rw [tagAll_standard, Request.setAttributes, List.flatMap_def]
  exact ExactTable.names_insertAll_rounds request.attributes (by decide) begins

theorem standard_standard (request : Request) (kind : Kind) :
    standard (standard request kind) kind = standard request kind := by
  have again := insertAll_insertAll_self request.attributes (tagsOf request kind)
  exact congrArg (fun attributes => { request with attributes }) again

/-- A kind that is told twice in a row is as good as told once. -/
theorem tagAll_repeated (request : Request) (before later : List Kind) (kind : Kind) :
    standard.tagAll request (before ++ kind :: kind :: later) =
      standard.tagAll request (before ++ kind :: later) := by
  simp only [tagAll, List.foldl_append, List.foldl_cons, standard_standard]

end Tagger

/-! ## Reading the kind back -/

namespace Kind

/-- The kind with a label. -/
def ofLabel? (label : String) : Option Kind :=
  [actual, preflight, other].find? fun kind => kind.label = label

/-- The kind that a flag and a label tell: under the flag `false` the label does not count. -/
def ofTags? (flag label : Option String) : Option Kind :=
  if flag = some "false" then some other else label.bind ofLabel?

theorem ofLabel?_label (kind : Kind) : ofLabel? kind.label = some kind := by
  cases kind <;> rfl

end Kind

/-! ## The attributes in the end -/

namespace Tagger
variable {request : Request} {kinds : List Kind}

/-- The flag and the label of a tagged request tell the kind that it was last told to be. -/
theorem ofTags?_tagAll {last : Kind} (ends : kinds.getLast? = some last) :
    Kind.ofTags? ((standard.tagAll request kinds).attribute? AttributeName.isCrossOrigin)
      ((standard.tagAll request kinds).attribute? AttributeName.kind) = some last := by
  rw [isCrossOrigin_tagAll ends, kind_tagAll, Kind.ofTags?]
  by_cases other : last = .other
  · rw [if_pos other, if_pos rfl, other]
  · rw [if_neg other, if_neg (by decide), getLast?_filter_of_getLast? ends other]
    exact Kind.ofLabel?_label last

/-- After one kind and more the flag goes by the last of them. The origin is noted if any of them was not
other, with the label of the last such kind, and the headers that are asked for if any was a preflight;
an absent header is noted as empty, and what no kind sets is as it was at first, in every other
attribute too. The attributes that were there keep their places and the new ones stand behind them,
in the order of the flag, the origin, the label and the headers, each of them once. So the flag and the
label tell the last kind, to tell a kind twice in a row is to tell it once, and nothing of the request
but its attributes is changed. -/
theorem tags_go_by_last_kinds (request : Request) {kinds : List Kind} (told : kinds ≠ []) :
    let left := standard.tagAll request kinds
    let last := kinds.getLast told
    left.attribute? AttributeName.isCrossOrigin = some (if last = .other then "false" else "true") ∧
    left.attribute? AttributeName.origin =
      (if ∃ kind ∈ kinds, kind ≠ .other then some (request.origin.getD "")
      else request.attribute? AttributeName.origin) ∧
    left.attribute? AttributeName.kind =
      ((kinds.filter (· ≠ .other)).getLast?.map Kind.label).or
        (request.attribute? AttributeName.kind) ∧
    left.attribute? AttributeName.headers =
      (if .preflight ∈ kinds then some (request.requestHeaders.getD "")
      else request.attribute? AttributeName.headers) ∧
    (∀ name, name ∉ AttributeName.all → left.attribute? name = request.attribute? name) ∧
    (left.attributes.names = request.attributes.names ++
      [AttributeName.isCrossOrigin, AttributeName.origin, AttributeName.kind,
        AttributeName.headers].filter fun name =>
          left.attributes.contains name && !request.attributes.contains name) ∧
    left.attributes.names.Nodup ∧
    Kind.ofTags? (left.attribute? AttributeName.isCrossOrigin)
      (left.attribute? AttributeName.kind) = some last ∧
    (∀ before later kind, standard.tagAll request (before ++ kind :: kind :: later) =
      standard.tagAll request (before ++ kind :: later)) ∧
    { left with attributes := request.attributes } = request := by
  intro left last
  have ends : kinds.getLast? = some last := List.getLast?_eq_some_getLast told
  refine ⟨isCrossOrigin_tagAll ends, origin_tagAll, kind_tagAll, headers_tagAll,
    fun name => attribute?_tagAll_of_not_mem, names_tagAll request kinds, ?_,
    ofTags?_tagAll ends, tagAll_repeated request, ?_⟩
  · exact left.attributes.distinct
  · have tagged : left = request.setAttributes _ := tagAll_standard request kinds
    rw [tagged]
    rfl

/-- A label that stood there before keeps its place, and is that of the last kind that is not other. -/
theorem tags_go_by_last_kinds_over_stale_label :
    let request : Request :=
      { method := "GET", origin := some "https://b.example",
        attributes := ofList [(AttributeName.kind, "stale"), ("trace", "7")] }
    let kinds : List Kind := [.preflight, .other, .actual, .other]
    let left := standard.tagAll request kinds
    kinds ≠ [] ∧ left.attribute? AttributeName.isCrossOrigin = some "false" ∧
      left.attribute? AttributeName.kind = some "actual" ∧
      left.attribute? AttributeName.headers = some "" ∧ left.attribute? "trace" = some "7" ∧
      left.attributes.names = [AttributeName.kind, "trace", AttributeName.isCrossOrigin,
        AttributeName.origin, AttributeName.headers] := by
  intro request kinds left
  have told : kinds ≠ [] := List.cons_ne_nil _ _
  obtain ⟨flag, -, label, headers, others, names, -⟩ := tags_go_by_last_kinds request told
  refine ⟨told, flag, label, headers, ?_, names.trans ?_⟩
  · exact (others "trace" (by decide)).trans (by decide)
  · decide

end Tagger
end OriginGate
