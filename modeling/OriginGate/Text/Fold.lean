/-!
Names of methods and header fields are compared up to ASCII case. `fold` takes a name to the
characters that decide such a comparison: the letters A to Z become a to z, and every other
character, a letter outside ASCII included, stays as it is.
-/

namespace OriginGate.Text

/-- The characters of `name` with A to Z replaced by a to z. -/
def fold (name : String) : List Char :=
  name.toList.map Char.toLower

/-- Whether two names are equal up to ASCII case. -/
def sameName (a b : String) : Bool :=
  fold a == fold b

theorem sameName_iff {a b : String} : sameName a b = true ↔ fold a = fold b :=
  beq_iff_eq

end OriginGate.Text
