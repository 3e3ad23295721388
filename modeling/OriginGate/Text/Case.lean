import Mathlib.Data.List.Forall2
import OriginGate.Text.Fold

/-! Equality up to ASCII case, told letter by letter and without folding. Only the letters A to Z
and a to z have a second case, so two names are the same but for case exactly if they fold alike
(`fold_eq_fold_iff`). -/
namespace OriginGate.Text
variable {c d : Char}

/-- A capital letter of ASCII and the small letter to it, which stands 32 places behind. -/
def CasePair (capital small : Char) : Prop :=
  'A' ≤ capital ∧ capital ≤ 'Z' ∧ small.toNat = capital.toNat + 32

/-- Two characters are the same, or one letter in its two cases. -/
def SameLetter (c d : Char) : Prop :=
  c = d ∨ CasePair c d ∨ CasePair d c

/-- Two texts agree letter by letter, but for case. -/
def SameButCase (a b : String) : Prop :=
  List.Forall₂ SameLetter a.toList b.toList

theorem capital_iff : 'A' ≤ c ∧ c ≤ 'Z' ↔ 65 ≤ c.toNat ∧ c.toNat ≤ 90 := by
  rw [Char.le_def, Char.le_def, UInt32.le_iff_toNat_le, UInt32.le_iff_toNat_le]
  rfl

/-- A capital is moved by 32 places, and no other character moves. -/
theorem toNat_toLower (c : Char) :
    c.toLower.toNat = if 65 ≤ c.toNat ∧ c.toNat ≤ 90 then c.toNat + 32 else c.toNat := by
  by_cases capital : 'A' ≤ c ∧ c ≤ 'Z'
  · have bounds := capital_iff.mp capital
    have moved : c.toLower.val = c.val + 32 := congrArg Char.val (dif_pos capital)
    have small : c.toNat + 32 < 2 ^ 32 := by omega
    rw [if_pos bounds, Char.toNat, moved, UInt32.toNat_add]
    exact Nat.mod_eq_of_lt small
  · have stays : c.toLower = c := dif_neg capital
    rw [stays, if_neg fun bounds => capital (capital_iff.mpr bounds)]

theorem toLower_eq_toLower_iff : c.toLower = d.toLower ↔ SameLetter c d := by
  have pair : ∀ capital small, CasePair capital small ↔
      (65 ≤ capital.toNat ∧ capital.toNat ≤ 90) ∧ small.toNat = capital.toNat + 32 := by
    intro capital small
    rw [CasePair, ← and_assoc, capital_iff]
  rw [SameLetter, pair, pair, ← Char.toNat_inj, ← Char.toNat_inj, toNat_toLower, toNat_toLower]
  split <;> split <;> omega

/-- Names fold alike exactly if they are the same but for ASCII case. -/
theorem fold_eq_fold_iff {a b : String} : fold a = fold b ↔ SameButCase a b := by
  rw [fold, fold, SameButCase, ← List.forall₂_eq_eq_eq, List.forall₂_map_left_iff,
    List.forall₂_map_right_iff]
  simp only [toLower_eq_toLower_iff]

/-- A character outside ASCII is the same letter as no other. -/
theorem SameLetter.eq_of_outside (same : SameLetter c d) (outside : 128 ≤ c.toNat) : c = d := by
  rcases same with same | ⟨-, last, -⟩ | ⟨first, last, small⟩
  · exact same
  · rw [Char.le_def, UInt32.le_iff_toNat_le] at last
    have bound : c.toNat ≤ 90 := last
    omega
  · have bounds := capital_iff.mp ⟨first, last⟩
    omega

/-- A text in ASCII is the same but for case as texts in ASCII alone. -/
theorem SameButCase.ascii {a b : String} (same : SameButCase a b)
    (ascii : ∀ d ∈ b.toList, d.toNat < 128) : ∀ c ∈ a.toList, c.toNat < 128 := by
  intro c member
  have folded : c.toLower ∈ fold b :=
    fold_eq_fold_iff.mpr same ▸ List.mem_map_of_mem (f := Char.toLower) member
  obtain ⟨d, memberToo, lower⟩ := List.mem_map.mp folded
  by_contra outside
  have equal := (toLower_eq_toLower_iff.mp lower.symm).eq_of_outside (Nat.le_of_not_lt outside)
  exact outside (equal ▸ ascii d memberToo)

instance (a b : String) : Decidable (SameButCase a b) :=
  decidable_of_iff _ fold_eq_fold_iff

end OriginGate.Text
