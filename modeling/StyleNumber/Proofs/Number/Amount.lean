import StyleNumber.Proofs.Number.Coercion
import StyleNumber.Proofs.Signature.Measure

/-! # Amounts

In scalars that do not round, a number stands for an amount: its scalar times the
measure of its units (`Number.amount`). Products, quotients, sums and differences
compute with amounts as with real numbers (`Number.amount_times`,
`Number.amount_dividedBy`, `Number.amount_coercedOperation`), and conversion keeps them.
Between commensurable signatures the amount determines the scalar, so a law of numbers
follows from the law of the reals once the signatures agree
(`Number.valueIn_eq_ok_iff`).
-/

namespace StyleNumber

namespace Number

/-- Whether an operation gives the same amount in whichever unit its operands are measured. -/
def Homogeneous (operation : ℝ → ℝ → ℝ) : Prop :=
  ∀ left right factor, operation (left * factor) (right * factor) = operation left right * factor

/-- A common factor can be taken out of a sum. -/
theorem homogeneous_add : Homogeneous (· + ·) :=
  fun left right factor => (add_mul left right factor).symm

/-- A common factor can be taken out of a difference. -/
theorem homogeneous_sub : Homogeneous (· - ·) :=
  fun left right factor => (sub_mul left right factor).symm

variable [ExactConstants] (scale : Scale)

/-- How much a number is, in the base units of a scale. -/
noncomputable def amount (number : Number ℝ) : ℝ :=
  number.value * scale.measure number.units

/-- A number with a scalar that is not zero is some amount. -/
theorem amount_ne_zero {number : Number ℝ} (nonzero : number.value ≠ 0) :
    number.amount scale ≠ 0 :=
  mul_ne_zero nonzero (scale.measure_ne_zero number.units)

/-- Amounts multiply. -/
theorem amount_times (left right : Number ℝ) :
    (left.times right).amount scale = left.amount scale * right.amount scale := by
  have kept := Signature.measure_multiply scale (left.value * right.value) left.units right.units
  simp only [amount, times, computed]
  linear_combination kept

/-- Amounts divide. -/
theorem amount_dividedBy (left right : Number ℝ) :
    (left.dividedBy right).amount scale = left.amount scale / right.amount scale := by
  have kept := Signature.measure_divide scale (left.value / right.value) left.units right.units
  simp only [amount, dividedBy]
  rw [kept]
  ring

/-- Units, amount and written text make up a number. -/
theorem eq_of_amount_eq {left right : Number ℝ} (sameUnits : left.units = right.units)
    (sameAmount : left.amount scale = right.amount scale)
    (sameText : left.written = right.written) : left = right := by
  obtain ⟨⟨leftValue, units⟩, text⟩ := left
  obtain ⟨⟨rightValue, rightUnits⟩, rightText⟩ := right
  cases sameUnits
  cases sameText
  have sameValue : leftValue = rightValue :=
    mul_right_cancel₀ (scale.measure_ne_zero units) sameAmount
  rw [sameValue]

/-- A conversion gives the scalar that makes up the same amount. -/
theorem valueIn_eq_ok_iff {number : Number ℝ} {target : Signature}
    (matched : number.units.Commensurable target) {converted : ℝ} :
    number.valueIn target = .ok converted ↔
      (ofUnits converted target).amount scale = number.amount scale :=
  matched.convert_eq_ok_iff scale

/-- Numbers of one amount convert into each other's scalar. -/
theorem valueIn_units_eq_ok {left right : Number ℝ}
    (matched : left.units.Commensurable right.units)
    (same : left.amount scale = right.amount scale) :
    left.valueIn right.units = .ok right.value :=
  (valueIn_eq_ok_iff scale matched).mpr same.symm

/-- An operation that does not depend on the unit acts on amounts. -/
theorem amount_coercedOperation {operation : ℝ → ℝ → ℝ} (homogeneous : Homogeneous operation)
    {left right result : Number ℝ} (matched : left.units.Commensurable right.units)
    (success : left.coercedOperation operation right = .ok result) :
    result.amount scale = operation (left.amount scale) (right.amount scale) := by
  obtain ⟨converted, conversion, computed⟩ := coercedOperation_of_commensurable operation matched
  rw [valueIn_eq_ok_iff scale matched.symm] at conversion
  rw [computed] at success
  cases success
  rw [← conversion]
  exact (homogeneous _ _ _).symm

end Number

end StyleNumber
