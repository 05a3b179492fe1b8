import Mathlib.Logic.Basic

/-! Replacing the bits under a mask by other bits: the rest is cleared out first, so
that adding the new bits cannot carry. -/
namespace TradeInterfaces.Foundations.Masks
variable {w : Nat} {mask bits : BitVec w}

/-- The bits of `x` outside the mask, with `bits` added. -/
def replace (mask bits x : BitVec w) : BitVec w := (x &&& ~~~mask) + bits

/-- Nothing is added outside the mask. -/
def Within (mask bits : BitVec w) : Prop := ∀ i < w, bits.getLsbD i = true → mask.getLsbD i = true

private theorem and_eq_zero (h : Within mask bits) (x : BitVec w) : (x &&& ~~~mask) &&& bits = 0#w := by
  apply BitVec.eq_of_getLsbD_eq
  intro i hi
  rw [BitVec.getLsbD_and, BitVec.getLsbD_and, BitVec.getLsbD_not, BitVec.getLsbD_zero]
  cases hb : bits.getLsbD i with
  | false => rw [Bool.and_false]
  | true =>
    have hm := h i hi hb
    simp [hm]

/-- The sum has no carries: it is computed bit by bit. -/
theorem replace_eq_or (h : Within mask bits) (x : BitVec w) : replace mask bits x = x &&& ~~~mask ||| bits :=
  BitVec.add_eq_or_of_and_eq_zero _ _ (and_eq_zero h x)

theorem toNat_replace (h : Within mask bits) (x : BitVec w) :
    (replace mask bits x).toNat = (x &&& ~~~mask).toNat + bits.toNat :=
  BitVec.toNat_add_of_and_eq_zero (and_eq_zero h x)

theorem getLsbD_replace_inside (h : Within mask bits) (x : BitVec w) {i : Nat} (hi : mask.getLsbD i = true) :
    (replace mask bits x).getLsbD i = bits.getLsbD i := by
  rw [replace_eq_or h, BitVec.getLsbD_or, BitVec.getLsbD_and, BitVec.getLsbD_not, hi]
  simp

theorem getLsbD_replace_outside (h : Within mask bits) (x : BitVec w) {i : Nat} (hi : mask.getLsbD i = false) :
    (replace mask bits x).getLsbD i = x.getLsbD i := by
  by_cases hw : i < w
  · have hb : bits.getLsbD i = false := by
      apply Bool.eq_false_iff.mpr
      intro hb
      rw [h i hw hb] at hi
      cases hi
    rw [replace_eq_or h, BitVec.getLsbD_or, BitVec.getLsbD_and, BitVec.getLsbD_not, hi, hb]
    simp [hw]
  · rw [BitVec.getLsbD_of_ge _ _ (by omega), BitVec.getLsbD_of_ge _ _ (by omega)]

/-- What is left of a value is its bits outside the mask. -/
theorem replace_eq_iff (h : Within mask bits) (x y : BitVec w) :
    replace mask bits x = replace mask bits y ↔ ∀ i, mask.getLsbD i = false → x.getLsbD i = y.getLsbD i := by
  constructor
  · intro he i hi
    rw [← getLsbD_replace_outside h x hi, he, getLsbD_replace_outside h y hi]
  · intro hout
    apply BitVec.eq_of_getLsbD_eq
    intro i _
    cases hi : mask.getLsbD i with
    | true => rw [getLsbD_replace_inside h x hi, getLsbD_replace_inside h y hi]
    | false => rw [getLsbD_replace_outside h x hi, getLsbD_replace_outside h y hi, hout i hi]

end TradeInterfaces.Foundations.Masks
