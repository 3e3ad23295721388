import OriginGate.Proofs.Runs
import OriginGate.Response.Edit
import OriginGate.Table.History

/-! What a response holds after any list of edits, told from the list. Status, media type and
encoding are what the last edit that sets them has set; the headers are those of the header edits
alone; the body is what was written since it was last cleared. -/
namespace OriginGate

/-! ## What one edit sets -/

namespace Edit

/-- The status that an edit sets, if it sets one. -/
def status? : Edit → Option Status
  | .status code => some code
  | .refuse refusal => some refusal.status
  | .rejectTenant rejection => some rejection.status
  | _ => none

/-- The media type that an edit sets, if it sets one. -/
def contentType? : Edit → Option String
  | .contentType value => some value
  | .refuse _ => some "text/plain"
  | .rejectTenant _ => some "application/json"
  | _ => none

/-- The encoding that an edit sets, if it sets one. A refusal sets none. -/
def encoding? : Edit → Option String
  | .encoding name => some name
  | .rejectTenant _ => some "UTF-8"
  | _ => none

/-- The header that an edit sets, if it sets one. -/
def header? : Edit → Option (String × String)
  | .header name value => some (name, value)
  | _ => none

/-- Whether an edit discards what the body held. -/
def clears : Edit → Bool
  | .clearBody | .refuse _ => true
  | _ => false

/-- What an edit adds to the body. -/
def text : Edit → String
  | .write added => added
  | .refuse refusal => "CORS Valve: " ++ refusal.message ++ "\n"
  | .rejectTenant rejection => rejection.document
  | _ => ""

/-- The edits from the last one on that clears the body, or all of them if none does. -/
def sinceCleared : List Edit → List Edit
  | [] => []
  | edit :: later => if later.any clears then sinceCleared later else edit :: later

theorem sinceCleared_of_none {edits : List Edit} (none : edits.any clears = false) :
    sinceCleared edits = edits := by
  cases edits with
  | nil => rfl
  | cons edit later =>
    rw [List.any_cons, Bool.or_eq_false_iff] at none
    rw [sinceCleared, if_neg (by simp [none.2])]

end Edit

namespace Response

theorem status_apply (response : Response) (edit : Edit) :
    (response.apply edit).status = edit.status?.or response.status := by
  cases edit <;> rfl

theorem contentType_apply (response : Response) (edit : Edit) :
    (response.apply edit).contentType = edit.contentType?.or response.contentType := by
  cases edit <;> rfl

theorem encoding_apply (response : Response) (edit : Edit) :
    (response.apply edit).encoding = edit.encoding?.or response.encoding := by
  cases edit <;> rfl

theorem headers_apply (response : Response) (edit : Edit) :
    (response.apply edit).headers = response.headers.insertAll edit.header?.toList := by
  cases edit <;> rfl

theorem body_apply (response : Response) (edit : Edit) :
    (response.apply edit).body = (if edit.clears then "" else response.body) ++ edit.text := by
  cases edit with
  | write text => rfl
  | rejectTenant rejection => rfl
  | clearBody => rfl
  | refuse refusal => exact String.empty_append.symm
  | _ => exact String.append_empty.symm

/-! ## What a list of edits leaves -/

/-- A field that every edit sets or leaves alone is after a list of edits what the last of them has
set. -/
theorem field_applyAll {β : Type} {field : Response → Option β} {set? : Edit → Option β}
    (step : ∀ response edit, field (response.apply edit) = (set? edit).or (field response))
    (response : Response) (edits : List Edit) :
    field (response.applyAll edits) = (edits.filterMap set?).getLast?.or (field response) := by
  induction edits generalizing response with
  | nil => rfl
  | cons edit later ih =>
    rw [applyAll_cons, ih, step, Run.getLast?_filterMap_cons, Option.or_assoc]

theorem field_applyAll_empty {β : Type} {field : Response → Option β} {set? : Edit → Option β}
    (step : ∀ response edit, field (response.apply edit) = (set? edit).or (field response))
    (unset : field ∅ = none) (edits : List Edit) :
    field ((∅ : Response).applyAll edits) = (edits.filterMap set?).getLast? := by
  rw [field_applyAll step, unset, Option.or_none]

theorem headers_applyAll (response : Response) (edits : List Edit) :
    (response.applyAll edits).headers =
      response.headers.insertAll (edits.filterMap Edit.header?) := by
  induction edits generalizing response with
  | nil => rfl
  | cons edit later ih =>
    rw [applyAll_cons, ih, headers_apply, ← Table.insertAll_append, List.filterMap_cons]
    cases edit.header? <;> rfl

theorem body_applyAll (response : Response) (edits : List Edit) :
    (response.applyAll edits).body =
      (if edits.any Edit.clears then "" else response.body) ++
        String.join ((Edit.sinceCleared edits).map Edit.text) := by
  induction edits generalizing response with
  | nil => exact String.append_empty.symm
  | cons edit later ih =>
    rw [applyAll_cons, ih, Edit.sinceCleared, List.any_cons]
    cases cleared : later.any Edit.clears with
    | true => simp
    | false =>
      rw [body_apply, Edit.sinceCleared_of_none cleared]
      simp [String.append_assoc]

/-! ## Whether anything was written -/

theorem isWritten_eq_false_iff {response : Response} :
    response.isWritten = false ↔
      response.status = none ∧ response.body = "" ∧ response.headers.isEmpty = true := by
  simp [isWritten, and_assoc]

theorem isWritten_iff {response : Response} :
    response.isWritten = true ↔
      (response.status ≠ none ∨ response.headers.isEmpty = false) ∨ response.body ≠ "" := by
  rw [← Bool.not_eq_false, isWritten_eq_false_iff]
  simp only [not_and_or, Bool.not_eq_true, ne_eq]
  tauto

/-- What is written stays so under every edit but the one that only clears. -/
theorem isWritten_apply {response : Response} (written : response.isWritten = true) {edit : Edit}
    (other : edit ≠ .clearBody) : (response.apply edit).isWritten = true := by
  cases edit with
  | status | refuse | rejectTenant => rfl
  | header name value => simp [isWritten, apply, setHeader]
  | contentType | encoding | readHeader => exact written
  | write added =>
    rw [isWritten_iff] at written ⊢
    refine written.imp_right fun body nothing => body ?_
    exact (String.append_eq_empty_iff.mp nothing).1
  | clearBody => exact absurd rfl other

/-- Only clearing the body can undo all that was written, and only if the body was all. -/
theorem unwritten_by_iff {response : Response} {edit : Edit} :
    response.isWritten = true ∧ (response.apply edit).isWritten = false ↔
      edit = .clearBody ∧ response.status = none ∧ response.headers.isEmpty = true ∧
        response.body ≠ "" := by
  constructor
  · rintro ⟨written, undone⟩
    have clearing : edit = .clearBody := by
      by_contra other
      rw [isWritten_apply written other] at undone
      cases undone
    subst clearing
    obtain ⟨status, -, headers⟩ := isWritten_eq_false_iff.mp undone
    refine ⟨rfl, status, headers, fun body => ?_⟩
    have nothing : response.isWritten = false :=
      isWritten_eq_false_iff.mpr ⟨status, body, headers⟩
    rw [nothing] at written
    cases written
  · rintro ⟨rfl, status, headers, body⟩
    exact ⟨isWritten_iff.mpr (.inr body), isWritten_eq_false_iff.mpr ⟨status, rfl, headers⟩⟩

theorem filterMap_ne_nil_iff {β : Type} {set? : Edit → Option β} {edits : List Edit} :
    edits.filterMap set? ≠ [] ↔ ∃ edit ∈ edits, (set? edit).isSome = true := by
  rw [Ne, List.filterMap_eq_nil_iff]
  simp [Option.isSome_iff_ne_none]

/-- Edits leave something written exactly if one of them sets a status or a header or text is
left. -/
theorem isWritten_applyAll_empty_iff (edits : List Edit) :
    ((∅ : Response).applyAll edits).isWritten = true ↔
      (∃ edit ∈ edits, edit.status?.isSome = true ∨ edit.header?.isSome = true) ∨
        ((∅ : Response).applyAll edits).body ≠ "" := by
  have status : ((∅ : Response).applyAll edits).status ≠ none ↔
      ∃ edit ∈ edits, edit.status?.isSome = true := by
    rw [field_applyAll_empty status_apply rfl, ← filterMap_ne_nil_iff]
    exact not_congr List.getLast?_eq_none_iff
  have headers : ((∅ : Response).applyAll edits).headers.isEmpty = false ↔
      ∃ edit ∈ edits, edit.header?.isSome = true := by
    rw [headers_applyAll, ← Bool.not_eq_true, ← filterMap_ne_nil_iff]
    exact not_congr Table.isEmpty_ofList_iff
  rw [isWritten_iff, status, headers]
  simp only [and_or_left, exists_or]

/-- A fresh response holds after any edits the status, the media type and the encoding that were set
last, where a refusal leaves the encoding as it is; the headers that the header edits build; and as
its body the texts since the last edit that clears. It shows as written exactly if an edit set a
status or a header or the body holds text, so that only clearing the body can take this back, and
only if there is neither a status nor a header. -/
theorem each_field_is_of_its_last_edit (edits : List Edit) :
    let left := (∅ : Response).applyAll edits
    left.status = (edits.filterMap Edit.status?).getLast? ∧
    left.contentType = (edits.filterMap Edit.contentType?).getLast? ∧
    left.encoding = (edits.filterMap Edit.encoding?).getLast? ∧
    (∀ refusal, (left.apply (.refuse refusal)).encoding = left.encoding) ∧
    left.headers = Table.ofList (edits.filterMap Edit.header?) ∧
    left.body = String.join ((Edit.sinceCleared edits).map Edit.text) ∧
    (left.isWritten = true ↔
      (∃ edit ∈ edits, edit.status?.isSome = true ∨ edit.header?.isSome = true) ∨
        left.body ≠ "") ∧
    ∀ edit, left.isWritten = true ∧ (left.apply edit).isWritten = false ↔
      edit = .clearBody ∧ left.status = none ∧ left.headers.isEmpty = true ∧ left.body ≠ "" := by
  intro left
  have body : left.body = String.join ((Edit.sinceCleared edits).map Edit.text) := by
    have none : (if edits.any Edit.clears then "" else (∅ : Response).body) = "" := ite_self _
    rw [body_applyAll, none, String.empty_append]
  refine ⟨field_applyAll_empty status_apply rfl edits,
    field_applyAll_empty contentType_apply rfl edits,
    field_applyAll_empty encoding_apply rfl edits, ?_, headers_applyAll _ _, body,
    isWritten_applyAll_empty_iff edits, ?_⟩
  · intro refusal
    rfl
  · intro edit
    exact unwritten_by_iff

end Response
end OriginGate
