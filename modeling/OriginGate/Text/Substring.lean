/-!
Parts of a text, character by character: what stands behind a given beginning, and whether one text
occurs inside another. Each is tied to the decomposition it finds: the beginning and the rest
(`behind?_eq_some_iff`), or something before, the text sought and something after
(`isSubstring_iff`).
-/

namespace OriginGate.Text

/-- What stands behind `front` in a text that begins with it. -/
def behind? : (front text : List Char) → Option (List Char)
  | [], text => some text
  | _ :: _, [] => none
  | c :: front, d :: text => if c = d then behind? front text else none

theorem behind?_eq_some_iff {front text rest : List Char} :
    behind? front text = some rest ↔ text = front ++ rest := by
  induction front generalizing text with
  | nil => simp [behind?]
  | cons c front ih =>
    cases text with
    | nil => simp [behind?]
    | cons d text =>
      by_cases same : c = d
      · simp [behind?, same, ih]
      · simp [behind?, same, Ne.symm same]

/-- Whether `sought` stands somewhere in the text, read from left to right. -/
def occursIn (sought : List Char) : List Char → Bool
  | [] => sought.isEmpty
  | c :: rest => sought.isPrefixOf (c :: rest) || occursIn sought rest

/-- Whether `sought` is a substring of `text`. -/
def isSubstring (sought text : String) : Bool :=
  occursIn sought.toList text.toList

theorem occursIn_iff_isInfix {sought text : List Char} :
    occursIn sought text = true ↔ sought <:+: text := by
  induction text with
  | nil => simp [occursIn]
  | cons c rest ih => simp [occursIn, ih, List.infix_cons_iff]

/-- The search succeeds exactly on texts that split around the text sought. -/
theorem isSubstring_iff {sought text : String} :
    isSubstring sought text = true ↔ ∃ before after, text = before ++ sought ++ after := by
  rw [isSubstring, occursIn_iff_isInfix]
  constructor
  · rintro ⟨before, after, split⟩
    refine ⟨String.ofList before, String.ofList after, String.toList_inj.mp ?_⟩
    simp [← split]
  · rintro ⟨before, after, rfl⟩
    exact ⟨before.toList, after.toList, by simp⟩

end OriginGate.Text
