import StyleNumber.Proofs.Number.Amount
import StyleNumber.Proofs.Signature.ProductLaws

/-! # Products up to conversion

Grouping three factors in two ways cancels different pairs and leaves different units,
an inch or 96 pixels. Neither the units nor the scalars need agree, but the results
convert into each other, and in scalars that do not round they convert exactly
(`Number.times_assoc_commensurable`). Likewise a quotient undoes a product up to
conversion (`Number.dividedBy_times_commensurable`).
-/

namespace StyleNumber

namespace Number

section

variable {K : Type} [Mul K] [Div K] [Constants K]

private theorem times_assoc_commensurable {first second third : Number K}
    (firstReduced : first.units.Reduced) (secondReduced : second.units.Reduced)
    (thirdReduced : third.units.Reduced) :
    ((first.times second).times third).units.Commensurable
      (first.times (second.times third)).units :=
  Signature.multiply_assoc_commensurable firstReduced secondReduced thirdReduced _ _ _ _

private theorem dividedBy_times_commensurable {number factor : Number K}
    (reduced : number.units.Reduced)
    (convertible : factor.units.Convertible) :
    ((number.times factor).dividedBy factor).units.Commensurable number.units :=
  Signature.divide_multiply_commensurable reduced convertible _ _

end

/-- **Multiplication is associative up to conversion.** With reduced factors, both groupings
of a product have as many units of each class above and below the bar. Hence either has
units when the other does, and each converts into the units of the other. In scalars that
do not round, the one converts into the scalar of the other. -/
theorem times_assoc_up_to_conversion :
    (∀ (K : Type) [Mul K] [Div K] [Constants K] (first second third : Number K),
      first.units.Reduced → second.units.Reduced → third.units.Reduced →
        let left := (first.times second).times third
        let right := first.times (second.times third)
        left.units.Commensurable right.units ∧ left.hasUnits = right.hasUnits ∧
          (∃ value, left.valueIn right.units = .ok value) ∧
          ∃ value, right.valueIn left.units = .ok value) ∧
      ∀ [ExactConstants] (first second third : Number ℝ),
        first.units.Reduced → second.units.Reduced → third.units.Reduced →
          let left := (first.times second).times third
          let right := first.times (second.times third)
          left.valueIn right.units = .ok right.value ∧
            right.valueIn left.units = .ok left.value := by
  constructor
  · intro K _ _ _ first second third firstReduced secondReduced thirdReduced left right
    have matched := times_assoc_commensurable firstReduced secondReduced thirdReduced
    exact ⟨matched, hasUnits_eq_of_commensurable matched, matched.exists_convert _,
      matched.symm.exists_convert _⟩
  · intro _ first second third firstReduced secondReduced thirdReduced left right
    have matched := times_assoc_commensurable firstReduced secondReduced thirdReduced
    have same : left.amount .standard = right.amount .standard := by
      rw [amount_times, amount_times, amount_times, amount_times, mul_assoc]
    exact ⟨valueIn_units_eq_ok .standard matched same,
      valueIn_units_eq_ok .standard matched.symm same.symm⟩

/-- An inch by one per pixel by a pixel is 96 pixels, or an inch. -/
theorem inch_per_pixel_regrouped :
    letI := ExactConstants.standard
    let inch : Number ℝ := ofUnit 1 ⟨"in"⟩
    let perPixel : Number ℝ := ofUnits 1 ⟨[], [⟨"px"⟩]⟩
    let pixel : Number ℝ := ofUnit 1 ⟨"px"⟩
    let rounded : Number Double :=
      ((ofUnit 1 ⟨"in"⟩).times (ofUnits 1 ⟨[], [⟨"px"⟩]⟩)).times (ofUnit 1 ⟨"px"⟩)
    (inch.units.Reduced ∧ perPixel.units.Reduced ∧ pixel.units.Reduced) ∧
      (inch.times perPixel).times pixel = ofUnit 96 ⟨"px"⟩ ∧
      inch.times (perPixel.times pixel) = ofUnit 1 ⟨"in"⟩ ∧
      (ofUnit (96 : ℝ) ⟨"px"⟩).valueIn (.single ⟨"in"⟩) = .ok 1 ∧
      (ofUnit (1 : ℝ) ⟨"in"⟩).valueIn (.single ⟨"px"⟩) = .ok 96 ∧
      (∃ value, rounded.valueIn (.single ⟨"in"⟩) = .ok value) ∧
      rounded.valueIn (.single ⟨"in"⟩) = .ok 1 := by
  let _ := ExactConstants.standard
  intro inch perPixel pixel rounded
  have reduced : inch.units.Reduced ∧ perPixel.units.Reduced ∧ pixel.units.Reduced := by decide
  have leftward : (inch.times perPixel).times pixel = ofUnit 96 ⟨"px"⟩ := by
    have steps : (inch.times perPixel).times pixel =
        ofUnit (1 * 1 * Factor.eval 96 * 1) ⟨"px"⟩ := rfl
    rw [steps]
    norm_num
  have rightward : inch.times (perPixel.times pixel) = ofUnit 1 ⟨"in"⟩ := by
    have steps : inch.times (perPixel.times pixel) =
        ofUnit (1 * (1 * 1 * Factor.eval 1)) ⟨"in"⟩ := rfl
    rw [steps]
    norm_num
  have exactly := times_assoc_up_to_conversion.2 inch perPixel pixel reduced.1 reduced.2.1
    reduced.2.2
  rw [leftward, rightward] at exactly
  have inDoubles := times_assoc_up_to_conversion.1 Double (ofUnit 1 ⟨"in"⟩)
    (ofUnits 1 ⟨[], [⟨"px"⟩]⟩) (ofUnit 1 ⟨"px"⟩) reduced.1 reduced.2.1 reduced.2.2
  exact ⟨reduced, leftward, rightward, exactly.1, exactly.2, inDoubles.2.2.1,
    by decide +kernel⟩

/-- **A quotient undoes a product.** When a reduced number is multiplied and then divided by
a number whose units all convert, it has as many units of each class as at first, and so
converts back into its units. In scalars that do not round it is the scalar it was, unless
the division was by zero. -/
theorem dividedBy_undoes_times :
    (∀ (K : Type) [Mul K] [Div K] [Constants K] (number factor : Number K),
      number.units.Reduced → factor.units.Convertible →
        let restored := (number.times factor).dividedBy factor
        restored.units.Commensurable number.units ∧
          ∃ value, restored.valueIn number.units = .ok value) ∧
      ∀ [ExactConstants] (number factor : Number ℝ),
        number.units.Reduced → factor.units.Convertible → factor.value ≠ 0 →
          ((number.times factor).dividedBy factor).valueIn number.units = .ok number.value := by
  constructor
  · intro K _ _ _ number factor reduced convertible restored
    have matched := dividedBy_times_commensurable reduced convertible
    exact ⟨matched, matched.exists_convert _⟩
  · intro _ number factor reduced convertible nonzero
    apply valueIn_units_eq_ok .standard (dividedBy_times_commensurable reduced convertible)
    rw [amount_dividedBy, amount_times]
    exact mul_div_cancel_right₀ _ (amount_ne_zero .standard nonzero)

/-- Milliseconds cancel the seconds and inches the pixels of a product, and the quotient
brings others back. The ems stay, and the factor is not reduced. In doubles the
scalar comes back a little short. -/
theorem speed_restored :
    letI := ExactConstants.standard
    let speed : Signature := ⟨[⟨"px"⟩, ⟨"em"⟩], [⟨"s"⟩]⟩
    let other : Signature := ⟨[⟨"ms"⟩, ⟨"in"⟩], [⟨"in"⟩]⟩
    let number : Number ℝ := ofUnits 12.5 speed
    let factor : Number ℝ := ofUnits 4 other
    let rounded : Number Double :=
      ((ofUnits 12.5 speed).times (ofUnits 4 other)).dividedBy (ofUnits 4 other)
    (speed.Reduced ∧ ¬other.Reduced ∧ other.Convertible ∧ factor.value ≠ 0) ∧
      ((number.times factor).dividedBy factor).units = ⟨[⟨"em"⟩, ⟨"in"⟩], [⟨"ms"⟩]⟩ ∧
      ((number.times factor).dividedBy factor).valueIn speed = .ok 12.5 ∧
      (∃ value, rounded.valueIn speed = .ok value) ∧
      rounded.valueIn speed = .ok 12.499999999999996 := by
  let _ := ExactConstants.standard
  intro speed other number factor rounded
  have nonzero : factor.value ≠ 0 := four_ne_zero
  have reduced : speed.Reduced := by decide
  have convertible : other.Convertible := by decide
  have exactly := dividedBy_undoes_times.2 number factor reduced convertible nonzero
  have inDoubles := dividedBy_undoes_times.1 Double (ofUnits 12.5 speed) (ofUnits 4 other)
    reduced convertible
  exact ⟨⟨reduced, by decide, convertible, nonzero⟩, rfl, exactly, inDoubles.2, by decide +kernel⟩

end Number

end StyleNumber
