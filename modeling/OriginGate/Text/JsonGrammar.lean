import OriginGate.Text.JsonObject

/-! The grammar of JSON, as far as flat objects in compact form go, with a predicate of texts for
each rule. Whatever the reader takes off the front of a text is an object by the grammar
(`isObject_of_read`), so that a text it reads to the end is well formed. -/
namespace OriginGate.Text.JsonGrammar

/-! ## The rules -/

def IsHexDigit (c : Char) : Prop :=
  '0' ≤ c ∧ c ≤ '9' ∨ 'a' ≤ c ∧ c ≤ 'f' ∨ 'A' ≤ c ∧ c ≤ 'F'

/-- One character of a string: itself, unless it is a control character, a quotation mark or a
backslash, or one of the escapes. -/
inductive IsCharacter : List Char → Prop where
  | unescaped {c : Char} (visible : 0x20 ≤ c.toNat) (quotation : c ≠ '"') (backslash : c ≠ '\\') :
      IsCharacter [c]
  | escaped {mark : Char} (known : mark ∈ ['"', '\\', '/', 'b', 'f', 'n', 'r', 't']) :
      IsCharacter ['\\', mark]
  | unit {a b c d : Char} (digits : ∀ digit ∈ [a, b, c, d], IsHexDigit digit) :
      IsCharacter ['\\', 'u', a, b, c, d]

inductive IsCharacters : List Char → Prop where
  | nil : IsCharacters []
  | cons {front text : List Char} (first : IsCharacter front) (rest : IsCharacters text) :
      IsCharacters (front ++ text)

inductive IsString : List Char → Prop where
  | quoted {text : List Char} (characters : IsCharacters text) : IsString ('"' :: text ++ ['"'])

/-- A number without sign, fraction and exponent: a zero, or digits of which the first is none. -/
inductive IsNumber : List Char → Prop where
  | zero : IsNumber ['0']
  | positive {first : Char} {rest : List Char} (least : '1' ≤ first) (greatest : first ≤ '9')
      (digits : ∀ c ∈ rest, c.isDigit = true) : IsNumber (first :: rest)

inductive IsValue : List Char → Prop where
  | number {text : List Char} (number : IsNumber text) : IsValue text
  | string {text : List Char} (string : IsString text) : IsValue text

inductive IsMember : List Char → Prop where
  | mk {name text : List Char} (named : IsString name) (value : IsValue text) :
      IsMember (name ++ ':' :: text)

inductive IsMembers : List Char → Prop where
  | one {text : List Char} (member : IsMember text) : IsMembers text
  | more {front text : List Char} (first : IsMember front) (rest : IsMembers text) :
      IsMembers (front ++ ',' :: text)

/-- An object without blanks, the members between braces. -/
inductive IsObject : List Char → Prop where
  | empty : IsObject ['\x7b', '\x7d']
  | members {text : List Char} (members : IsMembers text) :
      IsObject ('\x7b' :: text ++ ['\x7d'])

/-! ## Strings -/

open JsonString in
private theorem before_eq_some_iff {piece : Option Piece}
    {later : Option (List Piece × List Char)} {pieces : List Piece} {rest : List Char} :
    before piece later = some (pieces, rest) ↔
      ∃ first others, piece = some first ∧ later = some (others, rest) ∧
        pieces = first :: others := by
  cases piece with
  | none => simp [before]
  | some first =>
    cases later with
    | none => simp [before]
    | some found =>
      obtain ⟨others, behind⟩ := found
      simp only [before, Option.some.injEq, Prod.mk.injEq]
      constructor
      · rintro ⟨rfl, rfl⟩
        exact ⟨first, others, rfl, ⟨rfl, rfl⟩, rfl⟩
      · rintro ⟨_, _, rfl, ⟨rfl, rfl⟩, rfl⟩
        exact ⟨rfl, rfl⟩

theorem isHexDigit_of_hexValue? {c : Char} (value : (JsonString.hexValue? c).isSome) :
    IsHexDigit c := by
  unfold JsonString.hexValue? at value
  unfold IsHexDigit
  split at value
  · exact .inl ‹_›
  split at value
  · exact .inr (.inl ‹_›)
  split at value
  · exact .inr (.inr ‹_›)
  · cases value

theorem isHexDigit_of_unit? {a b c d : Char} {code : Nat}
    (unit : JsonString.unit? a b c d = some code) : ∀ digit ∈ [a, b, c, d], IsHexDigit digit := by
  unfold JsonString.unit? at unit
  split at unit
  · rename_i one two three four
    simp only [List.mem_cons, List.not_mem_nil, or_false, forall_eq_or_imp, forall_eq]
    refine ⟨?_, ?_, ?_, ?_⟩ <;> apply isHexDigit_of_hexValue? <;> simp [*]
  · cases unit

theorem mem_of_named? {mark c : Char} (named : JsonString.named? mark = some c) :
    mark ∈ ['"', '\\', '/', 'b', 'f', 'n', 'r', 't'] := by
  unfold JsonString.named? at named
  grind

theorem isCharacters_of_readPieces {text rest : List Char} {pieces : List JsonString.Piece}
    (taken : JsonString.readPieces text = some (pieces, rest)) :
    ∃ front, text = front ++ '"' :: rest ∧ IsCharacters front := by
  fun_induction JsonString.readPieces text generalizing pieces with
  | case1 => cases taken
  | case2 later =>
    cases taken
    exact ⟨[], rfl, .nil⟩
  | case3 a b c d later ih =>
    obtain ⟨first, others, piece, found, rfl⟩ := before_eq_some_iff.mp taken
    obtain ⟨code, unit, -⟩ := Option.map_eq_some_iff.mp piece
    obtain ⟨front, rfl, characters⟩ := ih found
    exact ⟨_, rfl, .cons (.unit (isHexDigit_of_unit? unit)) characters⟩
  | case4 mark later other ih =>
    obtain ⟨first, others, piece, found, rfl⟩ := before_eq_some_iff.mp taken
    obtain ⟨c, named, -⟩ := Option.map_eq_some_iff.mp piece
    obtain ⟨front, rfl, characters⟩ := ih found
    exact ⟨_, rfl, .cons (.escaped (mem_of_named? named)) characters⟩
  | case5 => cases taken
  | case6 c later quotation _ _ plain ih =>
    obtain ⟨visible, backslash⟩ := not_or.mp plain
    obtain ⟨first, others, -, found, rfl⟩ := before_eq_some_iff.mp taken
    obtain ⟨front, rfl, characters⟩ := ih found
    exact ⟨_, rfl, .cons (.unescaped (Nat.le_of_not_lt visible) quotation backslash) characters⟩

theorem isString_of_read {text said rest : List Char}
    (taken : JsonString.read text = some (said, rest)) :
    ∃ front, text = front ++ rest ∧ IsString front := by
  unfold JsonString.read at taken
  split at taken
  · split at taken
    · rename_i behind pieces later found
      obtain ⟨front, rfl, characters⟩ := isCharacters_of_readPieces found
      obtain ⟨joined, -, same⟩ := Option.map_eq_some_iff.mp taken
      cases same
      exact ⟨_, by simp, .quoted characters⟩
    · cases taken
  · cases taken

/-! ## Numbers -/

theorem leading_toDigits {value : Nat} (positive : 0 < value) :
    ∃ first rest, Nat.toDigits 10 value = first :: rest ∧ '1' ≤ first ∧ first ≤ '9' := by
  induction value using Nat.strongRecOn with
  | ind value ih =>
    by_cases small : value < 10
    · have leading : ∀ digit < 10, 0 < digit →
          '1' ≤ Nat.digitChar digit ∧ Nat.digitChar digit ≤ '9' := by decide
      exact ⟨_, [], Nat.toDigits_of_lt_base small, leading value small positive⟩
    · obtain ⟨first, rest, digits, leading⟩ := ih (value / 10) (by omega) (by omega)
      refine ⟨first, rest ++ [Nat.digitChar (value % 10)], ?_, leading⟩
      rw [Nat.toDigits_of_base_le (by decide) (by omega), digits, List.cons_append]

theorem isNumber_toDigits (value : Nat) : IsNumber (Nat.toDigits 10 value) := by
  have digits := @JsonScalar.isDigit_toDigits value
  by_cases positive : 0 < value
  · obtain ⟨first, rest, written, least, greatest⟩ := leading_toDigits positive
    rw [written] at digits ⊢
    exact .positive least greatest fun c member => digits c (.tail _ member)
  · rw [Nat.eq_zero_of_not_pos positive]
    exact .zero

theorem isNumber_of_ofDigits? {digits : List Char} {value : Nat}
    (named : JsonScalar.ofDigits? digits = some value) : IsNumber digits := by
  unfold JsonScalar.ofDigits? at named
  dsimp only at named
  split at named
  · rename_i shortest
    rw [← shortest]
    exact isNumber_toDigits _
  · cases named

/-! ## Objects -/

theorem isValue_of_read {text rest : List Char} {value : JsonScalar}
    (taken : JsonScalar.read text = some (value, rest)) :
    ∃ front, text = front ++ rest ∧ IsValue front := by
  unfold JsonScalar.read at taken
  split at taken
  · obtain ⟨⟨said, behind⟩, found, same⟩ := Option.map_eq_some_iff.mp taken
    cases same
    obtain ⟨front, split, string⟩ := isString_of_read found
    exact ⟨front, split, .string string⟩
  · obtain ⟨number, named, same⟩ := Option.map_eq_some_iff.mp taken
    cases same
    exact ⟨_, List.takeWhile_append_dropWhile.symm, .number (isNumber_of_ofDigits? named)⟩

theorem isMember_of_readMember {text rest : List Char} {member : String × JsonScalar}
    (taken : JsonObject.readMember text = some (member, rest)) :
    ∃ front, text = front ++ rest ∧ IsMember front := by
  unfold JsonObject.readMember at taken
  split at taken
  · rename_i name behind found
    obtain ⟨⟨value, later⟩, read, same⟩ := Option.map_eq_some_iff.mp taken
    cases same
    obtain ⟨front, rfl, named⟩ := isString_of_read found
    obtain ⟨middle, rfl, value⟩ := isValue_of_read read
    exact ⟨_, by simp, .mk named value⟩
  · cases taken

theorem isMembers_of_readMembers {bound : Nat} {text rest : List Char} {object : JsonObject}
    (taken : JsonObject.readMembers bound text = some (object, rest)) :
    ∃ front, text = front ++ '\x7d' :: rest ∧ IsMembers front := by
  induction bound generalizing text object with
  | zero => cases taken
  | succ bound ih =>
    unfold JsonObject.readMembers at taken
    split at taken
    · rename_i member behind found
      cases taken
      obtain ⟨front, split, member⟩ := isMember_of_readMember found
      exact ⟨front, split, .one member⟩
    · rename_i member behind found
      obtain ⟨⟨others, later⟩, read, same⟩ := Option.map_eq_some_iff.mp taken
      cases same
      obtain ⟨front, rfl, member⟩ := isMember_of_readMember found
      obtain ⟨middle, rfl, members⟩ := ih read
      exact ⟨_, by simp, .more member members⟩
    · cases taken

/-- What the reader takes off the front of a text is an object by the grammar. -/
theorem isObject_of_read {text rest : List Char} {object : JsonObject}
    (taken : JsonObject.read text = some (object, rest)) :
    ∃ front, text = front ++ rest ∧ IsObject front := by
  unfold JsonObject.read at taken
  split at taken
  · cases taken
    exact ⟨_, rfl, .empty⟩
  · obtain ⟨front, rfl, members⟩ := isMembers_of_readMembers taken
    exact ⟨_, by simp, .members members⟩
  · cases taken

end OriginGate.Text.JsonGrammar
