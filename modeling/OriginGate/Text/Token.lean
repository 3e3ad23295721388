/-!
The grammar of method names and header field names in RFC 9110: a token is one character or more,
each an ASCII letter, an ASCII digit or one of fifteen punctuation marks. A text is tested for it by
its bytes in UTF-8, and `isToken_iff` says that this comes to the grammar: no byte of a character
outside ASCII is the byte of a token character.
-/

namespace OriginGate.Text

/-- The punctuation marks that a token may hold; the two written by code are the apostrophe and
the grave accent. -/
def tokenMarks : List Char :=
  ['!', '#', '$', '%', '&', '\x27', '*', '+', '-', '.', '^', '_', '\x60', '|', '~']

/-- Whether a token may hold the character. -/
def isTokenChar (c : Char) : Bool :=
  ('0' ≤ c && c ≤ '9') || ('A' ≤ c && c ≤ 'Z') || ('a' ≤ c && c ≤ 'z') || tokenMarks.contains c

/-- A token is not empty and holds only token characters. -/
def IsToken (text : String) : Prop :=
  text.toList ≠ [] ∧ ∀ c ∈ text.toList, isTokenChar c = true

/-- Whether the byte is that of a token character. -/
def isTokenByte (byte : UInt8) : Bool :=
  (0x30 ≤ byte && byte ≤ 0x39) || (0x41 ≤ byte && byte ≤ 0x5A) || (0x61 ≤ byte && byte ≤ 0x7A) ||
    (tokenMarks.map Char.toUInt8).contains byte

/-- Decides whether the text is a token, byte by byte. -/
def isToken (text : String) : Bool :=
  !text.isEmpty && text.toUTF8.data.toList.all isTokenByte

private theorem lt_of_le_last {c last : Char} (below : c ≤ last) (ascii : last.toNat < 128) :
    c.toNat < 128 :=
  Nat.lt_of_le_of_lt (UInt32.le_iff_toNat_le.mp (Char.le_def.mp below)) ascii

/-- A character outside ASCII is in no token. -/
theorem lt_of_isTokenChar {c : Char} (allowed : isTokenChar c = true) : c.toNat < 128 := by
  simp only [isTokenChar, Bool.or_eq_true, Bool.and_eq_true, decide_eq_true_eq] at allowed
  rcases allowed with ((digit | upper) | lower) | mark
  · exact lt_of_le_last digit.2 (by decide)
  · exact lt_of_le_last upper.2 (by decide)
  · exact lt_of_le_last lower.2 (by decide)
  · have marks : tokenMarks.all (fun c => c.toNat < 128) = true := by decide
    exact of_decide_eq_true (List.all_eq_true.mp marks c (List.contains_iff_mem.mp mark))

/-! ## Bytes of a token -/

/-- Every byte of a character outside ASCII is outside ASCII. -/
theorem le_of_mem_utf8EncodeChar {c : Char} (outside : 128 ≤ c.toNat) {byte : UInt8}
    (member : byte ∈ String.utf8EncodeChar c) : 128 ≤ byte.toNat := by
  have value : c.val.toNat = c.toNat := rfl
  unfold String.utf8EncodeChar at member
  simp only [value] at member
  split at member
  · omega
  split at member
  · simp only [List.mem_cons, List.not_mem_nil, or_false] at member
    rcases member with rfl | rfl <;> rw [UInt8.toNat_ofNat'] <;> omega
  split at member
  · simp only [List.mem_cons, List.not_mem_nil, or_false] at member
    rcases member with rfl | rfl | rfl <;> rw [UInt8.toNat_ofNat'] <;> omega
  · simp only [List.mem_cons, List.not_mem_nil, or_false] at member
    rcases member with rfl | rfl | rfl | rfl <;> rw [UInt8.toNat_ofNat'] <;> omega

/-- A character in ASCII is one byte, with the character's number. -/
theorem utf8EncodeChar_of_lt {c : Char} (ascii : c.toNat < 128) :
    String.utf8EncodeChar c = [UInt8.ofNat c.toNat] :=
  if_pos (Nat.le_of_lt_succ ascii)

/-- The tests of a byte and of a character agree on ASCII. -/
theorem isTokenByte_ofNat {code : Nat} (ascii : code < 128) :
    isTokenByte (UInt8.ofNat code) = isTokenChar (Char.ofNat code) := by
  have table : ∀ code : Fin 128,
      isTokenByte (UInt8.ofNat code) = isTokenChar (Char.ofNat code) := by decide
  exact table ⟨code, ascii⟩

/-- A byte outside ASCII is in no token. -/
theorem lt_of_isTokenByte {byte : UInt8} (allowed : isTokenByte byte = true) :
    byte.toNat < 128 := by
  simp only [isTokenByte, Bool.or_eq_true, Bool.and_eq_true, decide_eq_true_eq] at allowed
  rcases allowed with ((digit | upper) | lower) | mark
  · exact Nat.lt_of_le_of_lt (UInt8.le_iff_toNat_le.mp digit.2) (by decide)
  · exact Nat.lt_of_le_of_lt (UInt8.le_iff_toNat_le.mp upper.2) (by decide)
  · exact Nat.lt_of_le_of_lt (UInt8.le_iff_toNat_le.mp lower.2) (by decide)
  · obtain ⟨c, listed, rfl⟩ := List.mem_map.mp (List.contains_iff_mem.mp mark)
    have marks : tokenMarks.all (fun c => c.toUInt8.toNat < 128) = true := by decide
    exact of_decide_eq_true (List.all_eq_true.mp marks c listed)

/-- A token may hold a character exactly if it may hold all bytes of it. -/
theorem all_utf8EncodeChar (c : Char) :
    (String.utf8EncodeChar c).all isTokenByte = isTokenChar c := by
  by_cases ascii : c.toNat < 128
  · rw [utf8EncodeChar_of_lt ascii, List.all_cons, List.all_nil, Bool.and_true,
      isTokenByte_ofNat ascii, Char.ofNat_toNat]
  · have refused : isTokenChar c = false :=
      Bool.eq_false_iff.mpr fun allowed => ascii (lt_of_isTokenChar allowed)
    obtain ⟨byte, member⟩ := List.exists_mem_of_ne_nil _ (String.utf8EncodeChar_ne_nil (c := c))
    have outside := le_of_mem_utf8EncodeChar (Nat.le_of_not_lt ascii) member
    rw [refused, List.all_eq_false]
    exact ⟨byte, member, fun allowed => absurd (lt_of_isTokenByte allowed) (Nat.not_lt.mpr outside)⟩

/-- The bytes of a text pass exactly if its characters do. -/
theorem all_toUTF8 (text : String) :
    text.toUTF8.data.toList.all isTokenByte = text.toList.all isTokenChar := by
  have bytes : text.toUTF8.data.toList = text.toList.flatMap String.utf8EncodeChar := by
    rw [String.toUTF8, ← String.utf8Encode_toList, List.utf8Encode, List.toList_data_toByteArray]
  rw [bytes, List.all_flatMap]
  exact congrArg text.toList.all (funext all_utf8EncodeChar)

theorem isToken_iff {text : String} : isToken text = true ↔ IsToken text := by
  rw [isToken, IsToken, all_toUTF8]
  simp

instance (text : String) : Decidable (IsToken text) :=
  decidable_of_iff _ isToken_iff

end OriginGate.Text
