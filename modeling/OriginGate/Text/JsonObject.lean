import OriginGate.Text.JsonString

/-!
Flat JSON objects in compact form: members in the order given, no white space, and values that are
numbers or strings. `render` writes one and `read` takes the written form apart again. The main
statement is `read_render`.
-/

namespace OriginGate.Text

/-- The value of a member: a natural number or a string. -/
inductive JsonScalar where
  | number (value : Nat)
  | string (value : String)
  deriving DecidableEq

/-- A flat object: its members, names first, in the order they are written. -/
abbrev JsonObject := List (String × JsonScalar)

/-! ## Writing -/

namespace JsonScalar

/-- A number in decimal digits, a string between quotation marks. -/
def render : JsonScalar → List Char
  | .number value => Nat.toDigits 10 value
  | .string value => JsonString.quote value.toList

/-- Reads decimal digits as a number. A number is named by its shortest digits alone, so none but
zero starts with a zero. -/
def ofDigits? (digits : List Char) : Option Nat :=
  let value := Nat.ofDigitChars 10 digits 0
  if Nat.toDigits 10 value = digits then some value else none

/-- Reads a value from the front of a text: the value, and the text behind it. -/
def read (text : List Char) : Option (JsonScalar × List Char) :=
  if text.head? = some '"' then
    (JsonString.read text).map fun found => (.string (String.ofList found.1), found.2)
  else
    (ofDigits? (text.takeWhile Char.isDigit)).map fun value =>
      (.number value, text.dropWhile Char.isDigit)

end JsonScalar

namespace JsonObject

/-- A member: its name, a colon, its value. -/
def renderMember (member : String × JsonScalar) : List Char :=
  JsonString.quote member.1.toList ++ ':' :: member.2.render

/-- The members with a comma between each two. -/
def renderMembers : JsonObject → List Char
  | [] => []
  | [member] => renderMember member
  | member :: members => renderMember member ++ ',' :: renderMembers members

/-- The members between braces. -/
def render (object : JsonObject) : List Char :=
  '\x7b' :: renderMembers object ++ ['\x7d']

/-! ## Reading -/

/-- Reads a member from the front of a text. -/
def readMember (text : List Char) : Option ((String × JsonScalar) × List Char) :=
  match JsonString.read text with
  | some (name, ':' :: rest) =>
    (JsonScalar.read rest).map fun found => ((String.ofList name, found.1), found.2)
  | _ => none

/-- Reads at most `bound` members up to the closing brace. -/
def readMembers : Nat → List Char → Option (JsonObject × List Char)
  | 0, _ => none
  | bound + 1, text =>
    match readMember text with
    | some (member, '\x7d' :: rest) => some ([member], rest)
    | some (member, ',' :: rest) =>
      (readMembers bound rest).map fun found => (member :: found.1, found.2)
    | _ => none

/-- Reads an object from the front of a text: the object, and the text behind it. An object has no
more members than its text has characters. -/
def read : List Char → Option (JsonObject × List Char)
  | '\x7b' :: '\x7d' :: rest => some ([], rest)
  | '\x7b' :: rest => readMembers rest.length rest
  | _ => none

end JsonObject

/-! ## Reading what was written -/

namespace JsonScalar

theorem isDigit_toDigits {value : Nat} : ∀ c ∈ Nat.toDigits 10 value, c.isDigit = true :=
  fun _ mem => Nat.isDigit_of_mem_toDigits (by decide) (by decide) mem

private theorem ofDigits?_toDigits (value : Nat) :
    ofDigits? (Nat.toDigits 10 value) = some value := by
  simp [ofDigits?, Nat.ofDigitChars_ten_toDigits]

private theorem head?_number (value : Nat) (rest : List Char) :
    (Nat.toDigits 10 value ++ rest).head? ≠ some '"' := by
  cases digits : Nat.toDigits 10 value with
  | nil => exact absurd digits Nat.toDigits_ne_nil
  | cons c tail =>
    intro same
    have digit := isDigit_toDigits c (digits ▸ List.mem_cons_self)
    simp only [List.cons_append, List.head?_cons, Option.some.injEq] at same
    subst same
    exact absurd digit (by decide)

/-- A value is read back from its written form, if no digit follows it. -/
theorem read_render (value : JsonScalar) {rest : List Char}
    (stop : ∀ c, rest.head? = some c → c.isDigit = false) :
    read (value.render ++ rest) = some (value, rest) := by
  cases value with
  | number value =>
    have ends : rest.takeWhile Char.isDigit = [] ∧ rest.dropWhile Char.isDigit = rest := by
      cases rest with
      | nil => exact ⟨rfl, rfl⟩
      | cons c rest => simp [stop c rfl]
    rw [read, render, if_neg (head?_number value rest),
      List.takeWhile_append_of_pos isDigit_toDigits, List.dropWhile_append_of_pos isDigit_toDigits,
      ends.1, ends.2, List.append_nil, ofDigits?_toDigits, Option.map_some]
  | string value =>
    have quotation : (JsonString.quote value.toList ++ rest).head? = some '"' := rfl
    rw [read, render, if_pos quotation, JsonString.read_quote]
    simp

theorem le_of_mem_render {value : JsonScalar} {c : Char} (mem : c ∈ value.render) :
    0x20 ≤ c.toNat := by
  cases value with
  | number value =>
    exact Nat.le_trans (by decide) (Char.isDigit_iff_toNat.mp (isDigit_toDigits c mem)).1
  | string value => exact JsonString.le_of_mem_quote mem

end JsonScalar

namespace JsonObject

/-- A member is read back from its written form, if no digit follows it. -/
theorem readMember_renderMember (member : String × JsonScalar) {rest : List Char}
    (stop : ∀ c, rest.head? = some c → c.isDigit = false) :
    readMember (renderMember member ++ rest) = some (member, rest) := by
  rw [readMember, renderMember, List.append_assoc, JsonString.read_quote, List.cons_append]
  simp [JsonScalar.read_render member.2 stop]

private theorem length_le_renderMembers (object : JsonObject) :
    object.length ≤ (renderMembers object).length := by
  induction object using renderMembers.induct with
  | case1 => simp
  | case2 member => simp [renderMembers, renderMember]; omega
  | case3 member members nonempty ih =>
    rw [renderMembers, List.length_append, List.length_cons, List.length_cons]
    · omega
    · exact nonempty

private theorem readMembers_renderMembers (object : JsonObject) (rest : List Char) {bound : Nat}
    (nonempty : object ≠ []) (enough : object.length ≤ bound) :
    readMembers bound (renderMembers object ++ '\x7d' :: rest) = some (object, rest) := by
  induction object using renderMembers.induct generalizing bound with
  | case1 => exact absurd rfl nonempty
  | case2 member =>
    obtain ⟨bound, rfl⟩ : ∃ smaller, bound = smaller + 1 := ⟨bound - 1, by simp at enough; omega⟩
    rw [renderMembers, readMembers, readMember_renderMember member (by simp [Char.isDigit])]
    rfl
  | case3 member members more ih =>
    obtain ⟨bound, rfl⟩ : ∃ smaller, bound = smaller + 1 := ⟨bound - 1, by simp at enough; omega⟩
    have left : members ≠ [] := more
    rw [renderMembers, List.append_assoc, List.cons_append, readMembers,
      readMember_renderMember member (by simp [Char.isDigit])]
    · simp [ih left (by simpa using enough)]
    · exact more

/-- An object is read back from its written form, and reading stops behind the closing brace. -/
theorem read_render (object : JsonObject) (rest : List Char) :
    read (object.render ++ rest) = some (object, rest) := by
  cases object with
  | nil => rfl
  | cons member members =>
    have enough : (member :: members).length ≤
        (renderMembers (member :: members) ++ '\x7d' :: rest).length := by
      have written := length_le_renderMembers (member :: members)
      rw [List.length_append]
      omega
    have opened : ∃ text, renderMembers (member :: members) = '"' :: text := by
      cases members <;> exact ⟨_, rfl⟩
    have found := readMembers_renderMembers (member :: members) rest (by simp) enough
    obtain ⟨text, starts⟩ := opened
    rw [starts] at found
    simpa [render, starts, read] using found

/-! ## Control characters -/

theorem le_of_mem_renderMember {member : String × JsonScalar} {c : Char}
    (mem : c ∈ renderMember member) : 0x20 ≤ c.toNat := by
  rw [renderMember, List.mem_append, List.mem_cons] at mem
  rcases mem with name | rfl | value
  · exact JsonString.le_of_mem_quote name
  · decide
  · exact JsonScalar.le_of_mem_render value

theorem le_of_mem_renderMembers {object : JsonObject} {c : Char}
    (mem : c ∈ renderMembers object) : 0x20 ≤ c.toNat := by
  induction object using renderMembers.induct with
  | case1 => cases mem
  | case2 member => exact le_of_mem_renderMember mem
  | case3 member members more ih =>
    rw [renderMembers, List.mem_append, List.mem_cons] at mem
    · rcases mem with first | rfl | rest
      · exact le_of_mem_renderMember first
      · decide
      · exact ih rest
    · exact more

/-- No control character stands in what was written, so a written object is one line. -/
theorem le_of_mem_render {object : JsonObject} {c : Char} (mem : c ∈ object.render) :
    0x20 ≤ c.toNat := by
  rw [render, List.mem_append, List.mem_cons, List.mem_singleton] at mem
  rcases mem with (rfl | inside) | rfl
  · decide
  · exact le_of_mem_renderMembers inside
  · decide

end JsonObject

end OriginGate.Text
