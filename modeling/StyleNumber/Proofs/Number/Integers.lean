import StyleNumber.Number.Argument
import StyleNumber.Proofs.Double.Whole

/-! # Numbers that count as integers

A number is accepted as an integer exactly if its scalar counts as whole
(`Number.exists_assertInt_iff`). Numbers equal to an integer up to the tolerance do, except for
the overlooked ones just below zero, of which `-9.99996e-12` is one
(`Number.little_below_zero_overlooked`). Where scalars are not overlooked, counting as whole,
being close to a whole double and lying within the tolerance of the nearest whole number are the
same (`Number.wholeness_is_closeness`).
-/

namespace StyleNumber

namespace Number

private theorem exists_assertInt_iff {number : Number Double} {name : Option String} :
    (∃ int, number.assertInt name = .ok int) ↔ number.IsInt := by
  unfold assertInt int? IsInt Double.wholeNumber?
  split <;> simp_all

/-- **Counting as whole is closeness to a whole number**, except for the doubles overlooked just
below zero. A finite double is close to a whole double exactly if its exact distance to the
nearest whole number is below the tolerance, and it counts as whole exactly if besides it is not
overlooked. Then all whole doubles close to it are the nearest whole number, which it is cast to
if that fits. Unless one of them is overlooked, a double and its opposite both count as whole or
neither does; unless it is overlooked, a number that equals an integer is accepted as one. -/
theorem wholeness_is_closeness (value : Double) (bounded : value.isFinite) :
    ((∃ whole : Double, whole.IsWhole ∧ value.Close whole) ↔
      |value.exact - nearestWhole value| < Double.tolerance.exact) ∧
    (value.NearWhole ↔
      (∃ whole : Double, whole.IsWhole ∧ value.Close whole) ∧ ¬value.Overlooked) ∧
    (value.NearWhole →
      (∀ whole : Double, whole.IsWhole → value.Close whole →
        whole.exact = nearestWhole value) ∧
      (Double.minInt64 ≤ nearestWhole value → nearestWhole value ≤ Double.maxInt64 →
        value.wholeNumber? = some (nearestWhole value))) ∧
    ((value.NearWhole ↔ (-value).NearWhole) ↔ ¬value.Overlooked ∧ ¬(-value).Overlooked) ∧
    ∀ (number integer : Number Double) (name : Option String), number.value = value →
      integer.value.IsWhole → number.Equal integer →
        ((∃ int, number.assertInt name = .ok int) ↔ ¬value.Overlooked) := by
  have closeIff := Double.exists_isWhole_close_iff bounded
  have nearIff := Double.nearWhole_iff bounded
  refine ⟨closeIff, ?_, ?_, Double.nearWhole_iff_neg bounded, ?_⟩
  · rw [closeIff, nearIff]
  · intro near
    refine ⟨?_, ?_⟩
    · intro whole isWhole close
      obtain ⟨ones, isOnes⟩ := isWhole.2
      rw [Double.close_iff_of_isWhole bounded isWhole, isOnes] at close
      rw [isOnes, (Double.nearestWhole_eq bounded (close.trans Double.tolerance_lt_half)).1]
    · intro least most
      rw [near.wholeNumber?_eq, min_eq_left most, max_eq_right least]
  · rintro number integer name rfl isWhole equal
    rw [exists_assertInt_iff, IsInt, nearIff, ← closeIff]
    exact and_iff_right ⟨integer.value, isWhole, equal⟩

/-- `1e-12` short of four, with a minus sign, is close to minus four and to no other whole double;
it is cast to minus four, and its opposite counts as whole, too. -/
theorem almost_minus_four_accepted :
    let almost : Double := -3.999999999999
    let pixels : Number Double := ofUnit almost ⟨"px"⟩
    (almost.isFinite ∧ almost.Close (-4) ∧ ¬almost.Overlooked ∧ ¬(-almost).Overlooked) ∧
      almost.NearWhole ∧ (-almost).NearWhole ∧
      (∀ whole : Double, whole.IsWhole → almost.Close whole → whole.exact = (-4 : ℤ)) ∧
      almost.wholeNumber? = some (-4) ∧ (∃ int, pixels.assertInt none = .ok int) ∧
      pixels.assertInt none = .ok (-4) := by
  intro almost pixels
  have bounded : almost.isFinite := by decide +kernel
  have noticed : ¬almost.Overlooked := by decide +kernel
  have oppositeNoticed : ¬(-almost).Overlooked := by decide +kernel
  have isWhole : (-4 : Double).IsWhole := ⟨by decide +kernel, -4, by decide +kernel⟩
  have nearest : nearestWhole almost = -4 := by decide +kernel
  obtain ⟨_, nearIff, nearest_of_near, oppositeIff, accepted⟩ :=
    wholeness_is_closeness almost bounded
  have near := nearIff.mpr ⟨⟨-4, isWhole, by decide +kernel⟩, noticed⟩
  obtain ⟨unique, cast⟩ := nearest_of_near near
  rw [nearest] at unique cast
  refine ⟨⟨bounded, by decide +kernel, noticed, oppositeNoticed⟩, near,
    (oppositeIff.mpr ⟨noticed, oppositeNoticed⟩).mp near, unique, cast (by decide) (by decide), ?_,
    by decide +kernel⟩
  exact (accepted pixels (ofUnit (-4) ⟨"px"⟩) none rfl isWhole (by decide +kernel)).mpr noticed

/-- `-9.99996e-12` equals zero and is not accepted as an integer, unlike its opposite, so the test
for whole numbers is not closeness to one. -/
theorem little_below_zero_overlooked :
    let little : Double := -9.99996e-12
    (little.isFinite ∧ little.Close 0 ∧ ¬little.NearWhole ∧ (-little).NearWhole) ∧
      (unitless little).assertInt none = .error (.argument none (.notAnInteger "0")) ∧
      ¬∀ value : Double, value.isFinite →
        (value.NearWhole ↔ ∃ whole : Double, whole.IsWhole ∧ value.Close whole) := by
  intro little
  have bounded : little.isFinite := by decide +kernel
  have missed : ¬little.NearWhole := by decide +kernel
  have isWhole : (0 : Double).IsWhole := ⟨by decide +kernel, 0, by decide +kernel⟩
  refine ⟨⟨bounded, by decide +kernel, missed, by decide +kernel⟩, by decide +kernel, ?_⟩
  intro agreement
  exact missed ((agreement little bounded).mpr ⟨0, isWhole, by decide +kernel⟩)

end Number

end StyleNumber
