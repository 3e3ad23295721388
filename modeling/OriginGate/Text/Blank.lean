/-!
White space as Unicode's property `White_Space` has it: 25 code points in ten ranges. A text is
blank when nothing is left of it once white space is taken off at both ends, and `isBlank_iff` says
that this comes to holding nothing else.
-/

namespace OriginGate.Text

/-- The code points of `White_Space`, as closed ranges in ascending order. -/
def blankRanges : List (Nat × Nat) :=
  [(0x09, 0x0D), (0x20, 0x20), (0x85, 0x85), (0xA0, 0xA0), (0x1680, 0x1680), (0x2000, 0x200A),
   (0x2028, 0x2029), (0x202F, 0x202F), (0x205F, 0x205F), (0x3000, 0x3000)]

/-- Whether the character has the property `White_Space`. -/
def isBlankChar (c : Char) : Bool :=
  blankRanges.any fun range => range.1 ≤ c.toNat && c.toNat ≤ range.2

/-- What is left of a text without the white space at its beginning. -/
def trimFront (text : List Char) : List Char :=
  text.dropWhile isBlankChar

/-- What is left of a text without the white space at its beginning and at its end. -/
def trim (text : List Char) : List Char :=
  (trimFront (trimFront text).reverse).reverse

/-- Whether nothing but white space is in the text. The empty text is blank. -/
def isBlank (text : String) : Bool :=
  (trim text.toList).isEmpty

/-! ## Trimming -/

/-- Only white space is taken off at the beginning. -/
theorem mem_trimFront_or {text : List Char} {c : Char} (member : c ∈ text) :
    isBlankChar c = true ∨ c ∈ trimFront text := by
  rw [← List.takeWhile_append_dropWhile (p := isBlankChar) (l := text), List.mem_append] at member
  refine member.imp_left fun taken => ?_
  exact List.all_eq_true.mp List.all_takeWhile c taken

/-- Only white space is taken off at either end. -/
theorem mem_trim_or {text : List Char} {c : Char} (member : c ∈ text) :
    isBlankChar c = true ∨ c ∈ trim text := by
  rcases mem_trimFront_or member with blank | kept
  · exact .inl blank
  · rw [trim, List.mem_reverse]
    exact mem_trimFront_or (List.mem_reverse.mpr kept)

theorem trimFront_of_blank {text : List Char} (blank : ∀ c ∈ text, isBlankChar c = true) :
    trimFront text = [] := by
  rw [trimFront, ← List.append_nil text]
  exact List.dropWhile_append_of_pos blank

/-- Nothing is left exactly of the texts that are all white space. -/
theorem trim_eq_nil_iff {text : List Char} :
    trim text = [] ↔ ∀ c ∈ text, isBlankChar c = true := by
  constructor
  · intro nothing c member
    refine (mem_trim_or member).resolve_right ?_
    rw [nothing]
    exact List.not_mem_nil
  · intro blank
    rw [trim, trimFront_of_blank blank]
    rfl

theorem isBlank_iff {text : String} :
    isBlank text = true ↔ ∀ c ∈ text.toList, isBlankChar c = true := by
  rw [isBlank, List.isEmpty_iff, trim_eq_nil_iff]

end OriginGate.Text
