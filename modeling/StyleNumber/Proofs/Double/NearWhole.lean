import StyleNumber.Proofs.Double.Closeness
import StyleNumber.Proofs.Double.Remainder

/-! # Doubles close to whole numbers

Whether a double counts as whole is decided on its remainder modulo one, which for a
negative double is itself a rounded sum. Either way a double that counts as whole lies
within `2 ^ -36` of a whole number (`Double.NearWhole.near`), that is, close enough for its
nearest decimals of ten places to be that number.
-/

namespace StyleNumber

namespace Magnitude

/-- One is held exactly. -/
theorem representable_quantaPerOne : Representable quantaPerOne :=
  ⟨1, 1074, by decide, by decide, by rw [Nat.one_mul, quantaPerOne]⟩

/-- The magnitude of one. -/
def one : Magnitude :=
  ⟨quantaPerOne, representable_quantaPerOne⟩

private theorem quanta_one : one.quanta = quantaPerOne := by
  simp only [one]

private theorem quanta_one_ne_zero : one.quanta ≠ 0 := by
  rw [quanta_one]
  exact quantaPerOne_pos.ne'

end Magnitude

namespace Double

/-- One is the positive double of the magnitude one. -/
theorem one_eq : (1 : Double) = finite false Magnitude.one := by
  rw [ofNat_eq, Nat.one_mul, ← Magnitude.quanta_one, ofRatio_quanta]

/-- The place of one on the line of doubles. -/
theorem rank?_one : (1 : Double).rank? = some ↑quantaPerOne := by
  rw [one_eq, rank?_finite, signed_false, Magnitude.quanta_one]

/-- The remainder modulo one of a double is that of its magnitude, or what that lacks to one,
rounded, if the double is negative. -/
theorem rank?_mod_one (negative : Bool) (magnitude : Magnitude) :
    (finite negative magnitude % 1).rank? =
      some (if negative ∧ magnitude.quanta % quantaPerOne ≠ 0 then
        nearestRank (quantaPerOne - ↑(magnitude.quanta % quantaPerOne)) 1
      else ↑(magnitude.quanta % quantaPerOne)) := by
  have ranked := rank?_mod_finite negative false magnitude Magnitude.quanta_one_ne_zero
  rwa [← one_eq, Magnitude.quanta_one] at ranked

/-- The remainder of a finite double modulo one is finite. -/
theorem isFinite_mod_one (negative : Bool) (magnitude : Magnitude) :
    (finite negative magnitude % 1).isFinite := by
  rw [one_eq]
  exact isFinite_mod negative false magnitude Magnitude.quanta_one_ne_zero

/-- `2 ^ -36`, in quanta. -/
def nearQuanta : ℕ :=
  twoPow 1038

/-- One is `2 ^ 36` times `2 ^ -36`. -/
theorem quantaPerOne_eq_near : quantaPerOne = twoPow 36 * nearQuanta := by
  rw [quantaPerOne, nearQuanta, ← twoPow_add]

/-- The tolerance is at most `2 ^ -36`. -/
theorem toleranceQuanta_le : toleranceQuanta ≤ nearQuanta := by
  have bits : 6189700196426901 ≤ twoPow 53 := by decide
  calc toleranceQuanta
      = 6189700196426901 * twoPow 985 := toleranceQuanta_eq
    _ ≤ twoPow 53 * twoPow 985 := Nat.mul_le_mul_right _ bits
    _ = nearQuanta := by rw [nearQuanta, ← twoPow_add]

private theorem representable_nearQuanta : Representable nearQuanta :=
  ⟨1, 1038, by decide, by decide, by rw [Nat.one_mul, nearQuanta]⟩

private theorem nearestRank_one_sub_near :
    nearestRank (quantaPerOne - nearQuanta) 1 = quantaPerOne - nearQuanta := by
  have difference : quantaPerOne - nearQuanta = (twoPow 36 - 1) * nearQuanta := by
    rw [quantaPerOne_eq_near, Nat.sub_mul, Nat.one_mul]
  have held : Representable (quantaPerOne - nearQuanta) :=
    ⟨twoPow 36 - 1, 1038, by decide, by decide, by rw [difference, nearQuanta]⟩
  have below : nearQuanta ≤ quantaPerOne := by
    rw [quantaPerOne_eq_near]
    exact Nat.le_mul_of_pos_left _ (twoPow_pos 36)
  rw [← Nat.cast_sub below]
  exact nearestRank_of_representable held

/-- The remainder of a double that counts as whole is near one of the two ends. -/
theorem abs_lt_of_close {remainder : Double} {rank : ℤ} (ranked : remainder.rank? = some rank)
    (close : remainder.Close 0 ∨ remainder.Close 1) :
    |rank| < nearQuanta ∨ |rank - quantaPerOne| < nearQuanta := by
  have tolerated : (toleranceQuanta : ℤ) ≤ nearQuanta := by exact_mod_cast toleranceQuanta_le
  rcases close with closeZero | closeOne
  · have difference := closeZero.abs_sub_lt ranked rank?_zero
    rw [sub_zero] at difference
    exact .inl (difference.trans_le tolerated)
  · exact .inr ((closeOne.abs_sub_lt ranked rank?_one).trans_le tolerated)

/-- **A double that counts as whole is near a whole number**, on one of its sides. -/
theorem NearWhole.near {negative : Bool} {magnitude : Magnitude}
    (near : (finite negative magnitude).NearWhole) :
    magnitude.quanta % quantaPerOne < nearQuanta ∨
      quantaPerOne < magnitude.quanta % quantaPerOne + nearQuanta := by
  have ends := abs_lt_of_close (rank?_mod_one negative magnitude) near.2
  have small := Nat.mod_lt magnitude.quanta quantaPerOne_pos
  generalize magnitude.quanta % quantaPerOne = rest at ends small ⊢
  by_cases lifted : negative ∧ rest ≠ 0
  · -- The rounded sum is compared in place of the exact one, and rounding keeps the order.
    rw [if_pos lifted] at ends
    rcases ends with nothing | one
    · have difference := abs_lt_of_abs_nearestRank_lt representable_nearQuanta nothing
      rw [abs_lt] at difference
      right
      omega
    · rw [abs_lt] at one
      left
      by_contra outside
      have rounded := nearestRank_le_nearestRank
        (show (quantaPerOne - rest : ℤ) ≤ quantaPerOne - nearQuanta by omega) one_pos
      rw [nearestRank_one_sub_near] at rounded
      omega
  · rw [if_neg lifted, abs_lt, abs_lt] at ends
    omega

end Double

end StyleNumber
