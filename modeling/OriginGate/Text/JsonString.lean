/-!
Strings as JSON writes them. `quote` picks one spelling for every character: the short escape where
there is one, `\u00xx` for the other control characters, and the character itself for the rest.
`read` takes every spelling the grammar has, surrogate pairs included. The main statement is
`read_quote`: reading what was quoted gives the text back and stops at its end, whatever stands
behind it.
-/

namespace OriginGate.Text.JsonString

/-! ## Writing -/

/-- How one character stands between the quotation marks. -/
def escape (c : Char) : List Char :=
  if c = '"' then ['\\', '"']
  else if c = '\\' then ['\\', '\\']
  else if c = '\x08' then ['\\', 'b']
  else if c = '\x09' then ['\\', 't']
  else if c = '\x0a' then ['\\', 'n']
  else if c = '\x0c' then ['\\', 'f']
  else if c = '\x0d' then ['\\', 'r']
  else if c.toNat < 0x20 then
    ['\\', 'u', '0', '0', Nat.digitChar (c.toNat / 16), Nat.digitChar (c.toNat % 16)]
  else [c]

/-- The text between its quotation marks, as a JSON string. -/
def quote (text : List Char) : List Char :=
  '"' :: text.flatMap escape ++ ['"']

/-! ## Reading -/

/-- What one character or escape of a string stands for: a character, or a 16-bit unit that may be
half of a surrogate pair. -/
inductive Piece where
  /-- A character written as itself or by a short escape. -/
  | char (c : Char)
  /-- A unit written by its four hexadecimal digits. -/
  | unit (code : Nat)
  deriving DecidableEq

/-- The value of a hexadecimal digit of either case. -/
def hexValue? (c : Char) : Option Nat :=
  if '0' ≤ c ∧ c ≤ '9' then some (c.toNat - '0'.toNat)
  else if 'a' ≤ c ∧ c ≤ 'f' then some (c.toNat - 'a'.toNat + 10)
  else if 'A' ≤ c ∧ c ≤ 'F' then some (c.toNat - 'A'.toNat + 10)
  else none

/-- The unit that four hexadecimal digits name. -/
def unit? (a b c d : Char) : Option Nat :=
  match hexValue? a, hexValue? b, hexValue? c, hexValue? d with
  | some a, some b, some c, some d => some (((a * 16 + b) * 16 + c) * 16 + d)
  | _, _, _, _ => none

/-- The character that a short escape names by its letter or mark. -/
def named? (mark : Char) : Option Char :=
  if mark = '"' ∨ mark = '\\' ∨ mark = '/' then some mark
  else if mark = 'b' then some '\x08'
  else if mark = 't' then some '\x09'
  else if mark = 'n' then some '\x0a'
  else if mark = 'f' then some '\x0c'
  else if mark = 'r' then some '\x0d'
  else none

/-- Puts a piece, if there is one, before the pieces read after it. -/
def before (piece : Option Piece) (later : Option (List Piece × List Char)) :
    Option (List Piece × List Char) :=
  match piece, later with
  | some piece, some (pieces, rest) => some (piece :: pieces, rest)
  | _, _ => none

/-- The pieces up to the closing quotation mark, and the text behind it. A control character may
not stand for itself, and a backslash has to begin an escape. -/
def readPieces : List Char → Option (List Piece × List Char)
  | [] => none
  | '"' :: rest => some ([], rest)
  | '\\' :: 'u' :: a :: b :: c :: d :: rest => before ((unit? a b c d).map .unit) (readPieces rest)
  | '\\' :: mark :: rest => before ((named? mark).map .char) (readPieces rest)
  | c :: rest =>
    if c.toNat < 0x20 ∨ c = '\\' then none else before (some (.char c)) (readPieces rest)

/-- The character with the given code, if the code is that of a character and no surrogate. -/
def scalar? (code : Nat) : Option Char :=
  if code.isValidChar then some (Char.ofNat code) else none

/-- Joins two halves of a surrogate pair to the character above U+FFFF that they name. -/
def pair? (high low : Nat) : Option Char :=
  if 0xD800 ≤ high ∧ high < 0xDC00 ∧ 0xDC00 ≤ low ∧ low < 0xE000 then
    scalar? (0x10000 + (high - 0xD800) * 0x400 + (low - 0xDC00))
  else none

/-- The text that pieces spell: two units that form a pair are one character, and a surrogate
outside a pair is refused. -/
def join : List Piece → Option (List Char)
  | [] => some []
  | .char c :: rest => (join rest).map (c :: ·)
  | .unit high :: .unit low :: rest =>
    match pair? high low with
    | some c => (join rest).map (c :: ·)
    | none => (scalar? high).bind fun c => (join (.unit low :: rest)).map (c :: ·)
  | .unit code :: rest => (scalar? code).bind fun c => (join rest).map (c :: ·)

/-- Reads a string from the front of a text: what it says, and the text behind it. -/
def read : List Char → Option (List Char × List Char)
  | '"' :: rest =>
    match readPieces rest with
    | some (pieces, rest) => (join pieces).map (·, rest)
    | none => none
  | _ => none

/-! ## Reading what was written -/

/-- The piece that the written form of a character is read as. -/
def pieceOf (c : Char) : Piece :=
  if c.toNat < 0x20 ∧ c ∉ ['\x08', '\x09', '\x0a', '\x0c', '\x0d'] then .unit c.toNat else .char c

private theorem all_escape_control :
    ∀ code < 0x20, (escape (Char.ofNat code)).all (fun c => 0x20 ≤ c.toNat) = true := by
  decide

private theorem unit?_control :
    ∀ code < 0x20, unit? '0' '0' (Nat.digitChar (code / 16)) (Nat.digitChar (code % 16)) =
      some code := by
  decide

private theorem escape_of_visible {c : Char} (quotation : c ≠ '"') (backslash : c ≠ '\\')
    (visible : ¬c.toNat < 0x20) : escape c = [c] := by
  have other : ∀ control : Char, control.toNat < 0x20 → c ≠ control :=
    fun _ low same => visible (same ▸ low)
  rw [escape, if_neg quotation, if_neg backslash, if_neg (other _ (by decide)),
    if_neg (other _ (by decide)), if_neg (other _ (by decide)), if_neg (other _ (by decide)),
    if_neg (other _ (by decide)), if_neg visible]

private theorem readPieces_plain {c : Char} {rest : List Char} (quotation : c ≠ '"')
    (backslash : c ≠ '\\') (large : ¬c.toNat < 0x20) :
    readPieces (c :: rest) = before (some (.char c)) (readPieces rest) := by
  rw [readPieces.eq_def]
  split <;> grind

/-- One written character is read as its piece, and reading goes on behind it. -/
theorem readPieces_escape (c : Char) (rest : List Char) :
    readPieces (escape c ++ rest) = before (some (pieceOf c)) (readPieces rest) := by
  by_cases quotation : c = '"'
  · subst quotation; rfl
  by_cases backslash : c = '\\'
  · subst backslash; rfl
  by_cases backspace : c = '\x08'
  · subst backspace; rfl
  by_cases tab : c = '\x09'
  · subst tab; rfl
  by_cases newline : c = '\x0a'
  · subst newline; rfl
  by_cases formFeed : c = '\x0c'
  · subst formFeed; rfl
  by_cases carriageReturn : c = '\x0d'
  · subst carriageReturn; rfl
  by_cases small : c.toNat < 0x20
  · simp only [escape, pieceOf, quotation, backslash, backspace, tab, newline, formFeed,
      carriageReturn, small, if_true, if_false, List.cons_append, List.nil_append, readPieces,
      unit?_control c.toNat small, Option.map_some]
    simp [backspace, tab, newline, formFeed, carriageReturn]
  · rw [escape_of_visible quotation backslash small, pieceOf, if_neg fun both => small both.1]
    exact readPieces_plain quotation backslash small

theorem readPieces_escapes (text rest : List Char) :
    readPieces (text.flatMap escape ++ '"' :: rest) = some (text.map pieceOf, rest) := by
  induction text with
  | nil => rfl
  | cons c text ih => simp [readPieces_escape, ih, before]

private theorem pair?_small {high low : Nat} (small : high < 0x20) : pair? high low = none := by
  simp only [pair?]
  rw [if_neg (by omega)]

private theorem scalar?_toNat (c : Char) : scalar? c.toNat = some c := by
  have valid : c.toNat.isValidChar := c.valid
  rw [scalar?, if_pos valid, Char.ofNat_toNat]

theorem join_pieces (text : List Char) : join (text.map pieceOf) = some text := by
  induction text with
  | nil => rfl
  | cons c text ih =>
    rw [List.map_cons]
    by_cases control : c.toNat < 0x20 ∧ c ∉ ['\x08', '\x09', '\x0a', '\x0c', '\x0d']
    · rw [pieceOf, if_pos control]
      cases pieces : text.map pieceOf with
      | nil => simp_all [join, scalar?_toNat]
      | cons piece pieces =>
        cases piece <;> simp_all [join, pair?_small control.1, scalar?_toNat]
    · rw [pieceOf, if_neg control]
      simp [join, ih]

/-- Reading what was quoted gives the text back and stops behind the closing quotation mark. -/
theorem read_quote (text rest : List Char) : read (quote text ++ rest) = some (text, rest) := by
  simp [quote, read, readPieces_escapes, join_pieces]

-- The reader also takes spellings that are never written: a surrogate pair is the one character
-- that it names. Half of a pair is refused.
example : read "\"\\ud83d\\ude00\"".toList = some (['😀'], []) := rfl
example : read "\"\\ud83d\"".toList = none := rfl

/-- No written form of a character holds a control character. -/
theorem le_of_mem_escape {plain c : Char} (mem : c ∈ escape plain) : 0x20 ≤ c.toNat := by
  suffices visible : (escape plain).all (fun c => 0x20 ≤ c.toNat) = true from
    of_decide_eq_true (List.all_eq_true.mp visible c mem)
  by_cases small : plain.toNat < 0x20
  · rw [← Char.ofNat_toNat plain]
    exact all_escape_control plain.toNat small
  by_cases quotation : plain = '"'
  · subst quotation; decide
  by_cases backslash : plain = '\\'
  · subst backslash; decide
  rw [escape_of_visible quotation backslash small]
  simpa using Nat.le_of_not_lt small

/-- No control character stands for itself in what was quoted, so a quoted text is one line. -/
theorem le_of_mem_quote {text : List Char} {c : Char} (mem : c ∈ quote text) : 0x20 ≤ c.toNat := by
  simp only [quote, List.mem_append, List.mem_cons, List.mem_flatMap, List.not_mem_nil,
    or_false] at mem
  rcases mem with (rfl | ⟨plain, -, mem⟩) | rfl
  · decide
  · exact le_of_mem_escape mem
  · decide

end OriginGate.Text.JsonString
