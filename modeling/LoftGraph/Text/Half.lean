/-!
# Halves of pairs

A character beyond the basic plane may be spelled as a pair of code units.  Half of a pair that
stands alone is no character, yet a document may hold one, and it has to come out as it came in.

* `Text.ofHalf` keeps a lone half as a private character, each half as its own; texts are not
  expected to use those characters for anything else.
* `Text.half?` tells which half a character stands for (`half?_ofHalf`).
-/

namespace LoftGraph.Text

/-- The first code unit that is half of a pair. -/
def firstUnit : Nat := 0xd800

/-- Is the code unit half of a pair? -/
def isHalf (unit : Nat) : Bool := firstUnit ≤ unit && unit < 0xe000

/-- The first of the characters that stand for halves. -/
def firstHalf : Nat := 0xfb800

/-- The character a lone half is kept as. -/
def ofHalf (unit : Nat) : Char := Char.ofNat (firstHalf + (unit - firstUnit))

/-- The half a character stands for, if it stands for one. -/
def half? (c : Char) : Option Nat :=
  let unit := c.toNat - firstHalf + firstUnit
  if firstHalf ≤ c.toNat ∧ isHalf unit then some unit else none

/-- The number of the character a half is kept as. -/
theorem toNat_ofHalf {unit : Nat} (h : isHalf unit = true) :
    (ofHalf unit).toNat = firstHalf + (unit - firstUnit) := by
  simp only [isHalf, firstUnit, Bool.and_eq_true, decide_eq_true_eq] at h
  have valid : (0xfb800 + (unit - 0xd800)).isValidChar := Or.inr (by omega)
  unfold ofHalf Char.ofNat firstHalf firstUnit
  rw [dif_pos valid]
  rfl

/-- A lone half comes out as it came in. -/
theorem half?_ofHalf {unit : Nat} (h : isHalf unit = true) : half? (ofHalf unit) = some unit := by
  have low : firstUnit ≤ unit := by
    simp only [isHalf, Bool.and_eq_true, decide_eq_true_eq] at h
    exact h.1
  have back : firstHalf + (unit - firstUnit) - firstHalf + firstUnit = unit := by omega
  unfold half?
  rw [toNat_ofHalf h, back]
  exact if_pos ⟨Nat.le_add_right firstHalf _, h⟩

end LoftGraph.Text
